import EdgeFleet.Proofs.Agent.Policy
import EdgeFleet.Proofs.Record.Port

/-!
# What nodes are told of a workload

The message for a workload has all that the definition of the workload says but its packaging, which
is told by the method that is called. `Definition.Carries` says what the parts of a message are, for
numbers as the node reads them, with a sign. Read `workload_message_lossless` first: the message of a
workload that passes its check carries it, and from what is written no other workload can be read.
-/

namespace EdgeFleet

open Cluster

/-! ### Numbers with a sign -/

namespace Json

/-- A number of 32 bits with a sign. -/
def signed? (value : Json) : Option Int32 :=
  (Object.int32? value).map Int32.ofInt

theorem Faithful.signed : Faithful signed? fun number => .int number.toInt where
  read_write number := by
    have hlow := number.le_toInt
    have hhigh := number.toInt_lt
    have hrange : -0x80000000 ≤ number.toInt ∧ number.toInt < 0x80000000 :=
      ⟨by omega, by omega⟩
    simp [signed?, Object.int32?, int?, Option.filter, hrange]
  write_ne_null _ := nofun

end Json

/-- A number is known if it is known with a sign. -/
theorem eq_of_signed {signed : Int} {one other : UInt32} (hone : signed = one.toNat)
    (hother : signed = other.toNat) : one = other :=
  UInt32.toNat_inj.1 (Int.ofNat.inj (hone.symm.trans hother))

/-- A footprint that passes its check fits numbers with a sign. -/
theorem footprint_fits {name version vendor source : String} {cores memory : UInt32}
    (h : checkFootprint name version vendor cores memory source = .ok ()) :
    cores.toInt32.toInt = cores.toNat ∧ memory.toInt32.toInt = memory.toNat := by
  simp only [checkFootprint, Check.bind_passes, Check.range, Check.require_passes,
    Bool.and_eq_true, decide_eq_true_eq] at h
  obtain ⟨-, -, -, ⟨-, hcores⟩, ⟨-, hmemory⟩, -⟩ := h
  simp only [maxCores, maxMemory] at hcores hmemory
  exact ⟨signed_eq (by omega), signed_eq (by omega)⟩

/-- The names of protocols tell them apart. -/
theorem PortProtocol.name_inj {one other : PortProtocol} (h : one.name = other.name) :
    one = other := by
  cases one <;> cases other <;> simp [PortProtocol.name] at h ⊢

namespace Agent

/-! ### Messages as they are written -/

/-- Reads an exposed port from a message. -/
def Port.ofMessage? (message : Json) : Option Port := do
  return {
    port := ← message.field? "port" Json.word?
    protocol := ← message.field? "protocol" Json.text? }

theorem Port.message_faithful :
    Json.Faithful ofMessage? fun port => .object [
      ("port", (port.port.toNat : Json)), ("protocol", .string port.protocol)] :=
  .object fun port => by
    simp [ofMessage?, Json.field?, Json.get?, Json.lookup, Json.Faithful.text.read_write,
      Json.Faithful.word.read_write]

/-- Reads an application from a message. -/
def AppMessage.ofMessage? (message : Json) : Option AppMessage := do
  return {
    id := ← message.field? "id" Json.text?
    name := ← message.field? "name" Json.text?
    version := ← message.field? "version" Json.text?
    vendor := ← message.field? "vendor" Json.text?
    description := ← message.field? "description" Json.text?
    cores := ← message.field? "cores" Json.signed?
    memory := ← message.field? "memory" Json.signed?
    ports := ← message.field? "ports" (Object.listOf? Port.ofMessage?)
    source := ← message.field? "source" Json.text? }

theorem AppMessage.message_faithful : Json.Faithful ofMessage? toJson :=
  .object fun app => by
    simp [ofMessage?, Json.field?, Json.get?, Json.lookup, Json.Faithful.text.read_write,
      Json.Faithful.signed.read_write, Port.message_faithful.list.read_write]

/-- Reads a virtual network function from a message. -/
def VnfMessage.ofMessage? (message : Json) : Option VnfMessage := do
  return {
    id := ← message.field? "id" Json.text?
    name := ← message.field? "name" Json.text?
    version := ← message.field? "version" Json.text?
    vendor := ← message.field? "vendor" Json.text?
    description := ← message.field? "description" Json.text?
    cores := ← message.field? "cores" Json.signed?
    memory := ← message.field? "memory" Json.signed?
    source := ← message.field? "source" Json.text? }

theorem VnfMessage.message_faithful : Json.Faithful ofMessage? toJson :=
  .object fun vnf => by
    simp [ofMessage?, Json.field?, Json.get?, Json.lookup, Json.Faithful.text.read_write,
      Json.Faithful.signed.read_write]

/-! ### What messages carry -/

/-- Whether a port of a message is an exposed one. The empty protocol is the one that stands for
all. -/
structure Port.Carries (sent : Port) (exposed : ExposedPort) : Prop where
  port : sent.port = exposed.port
  all_iff : sent.protocol = "" ↔ exposed.protocol = .all
  named : exposed.protocol ≠ .all → sent.protocol = exposed.protocol.name

/-- Whether a message is that of an application. -/
structure AppMessage.Carries (message : AppMessage) (app : App) : Prop where
  id : message.id = app.id
  name : message.name = app.name
  version : message.version = app.version
  vendor : message.vendor = app.vendor
  description : message.description = app.description
  cores : message.cores.toInt = app.cores.toNat
  memory : message.memory.toInt = app.memory.toNat
  ports : List.Forall₂ Port.Carries message.ports app.ports
  source : message.source = app.source

/-- Whether a message is that of a virtual network function. -/
structure VnfMessage.Carries (message : VnfMessage) (vnf : Vnf) : Prop where
  id : message.id = vnf.id
  name : message.name = vnf.name
  version : message.version = vnf.version
  vendor : message.vendor = vnf.vendor
  description : message.description = vnf.description
  cores : message.cores.toInt = vnf.cores.toNat
  memory : message.memory.toInt = vnf.memory.toNat
  source : message.source = vnf.source

/-- The port of a message for an exposed one. -/
theorem Port.carries (exposed : ExposedPort) :
    Carries ⟨exposed.port, protocolText exposed.protocol⟩ exposed where
  port := rfl
  all_iff := by cases exposed.protocol <;> simp [protocolText, PortProtocol.name]
  named := by cases exposed.protocol <;> simp [protocolText]

/-- A port of a message tells of one exposed port only. -/
theorem Port.Carries.unique : Relator.RightUnique Port.Carries := by
  rintro sent one other hone hother
  have hport : one.port = other.port := hone.port.symm.trans hother.port
  have hprotocol : one.protocol = other.protocol := by
    by_cases hall : sent.protocol = ""
    · rw [hone.all_iff.1 hall, hother.all_iff.1 hall]
    · refine PortProtocol.name_inj ?_
      rw [← hone.named (mt hone.all_iff.2 hall), ← hother.named (mt hother.all_iff.2 hall)]
  cases one
  cases other
  exact congr (congrArg ExposedPort.mk hport) hprotocol

/-- The message for an application that passes its check is its own. -/
theorem AppMessage.carries {app : App} (h : app.check = .ok ()) : (ofApp app).Carries app := by
  simp only [App.check, Check.bind_passes] at h
  obtain ⟨hcores, hmemory⟩ := footprint_fits h.2.1
  exact ⟨rfl, rfl, rfl, rfl, rfl, hcores, hmemory,
    List.forall₂_map_left_iff.2 (List.forall₂_same.2 fun exposed _ => Port.carries exposed), rfl⟩

/-- So is the one for a virtual network function. -/
theorem VnfMessage.carries {vnf : Vnf} (h : vnf.check = .ok ()) : (ofVnf vnf).Carries vnf := by
  simp only [Vnf.check, Check.bind_passes] at h
  obtain ⟨hcores, hmemory⟩ := footprint_fits h.2
  exact ⟨rfl, rfl, rfl, rfl, rfl, hcores, hmemory, rfl⟩

/-- A message is that of one application only, if it is known how this is packed. -/
theorem AppMessage.Carries.unique {message : AppMessage} {one other : App}
    (hone : message.Carries one) (hother : message.Carries other)
    (hpackaging : one.packaging = other.packaging) : one = other := by
  have hcores := eq_of_signed hone.cores hother.cores
  have hmemory := eq_of_signed hone.memory hother.memory
  have hports := List.right_unique_forall₂' Port.Carries.unique hone.ports hother.ports
  obtain ⟨hid, hname, hversion, hvendor, hdescription, -, -, -, hsource⟩ := hone
  obtain ⟨hid', hname', hversion', hvendor', hdescription', -, -, -, hsource'⟩ := hother
  cases one
  cases other
  simp_all

/-- A message is that of one virtual network function only. -/
theorem VnfMessage.Carries.unique {message : VnfMessage} {one other : Vnf}
    (hone : message.Carries one) (hother : message.Carries other)
    (hpackaging : one.packaging = other.packaging) : one = other := by
  have hcores := eq_of_signed hone.cores hother.cores
  have hmemory := eq_of_signed hone.memory hother.memory
  obtain ⟨hid, hname, hversion, hvendor, hdescription, -, -, hsource⟩ := hone
  obtain ⟨hid', hname', hversion', hvendor', hdescription', -, -, hsource'⟩ := hother
  cases one
  cases other
  simp_all

namespace Definition

/-- The JSON form of a definition. -/
def toJson : Definition → Json
  | .app message => message.toJson
  | .vnf message => message.toJson

/-- Whether a definition is that of a workload. -/
inductive Carries : Definition → Workload → Prop
  | app {message : AppMessage} {app : App} (h : message.Carries app) :
      Carries (.app message) (.app app)
  | vnf {message : VnfMessage} {vnf : Vnf} (h : message.Carries vnf) :
      Carries (.vnf message) (.vnf vnf)

/-- The definition of a workload that passes its check is its own. -/
theorem carries {workload : Workload} (h : workload.check = .ok ()) :
    (ofWorkload workload).Carries workload := by
  cases workload with
  | app app => exact .app (AppMessage.carries h)
  | vnf vnf => exact .vnf (VnfMessage.carries h)

/-- A definition is that of one workload only, if it is known how this is packed. -/
theorem Carries.unique {definition : Definition} {one other : Workload}
    (hone : definition.Carries one) (hother : definition.Carries other)
    (hpackaging : one.packaging = other.packaging) : one = other := by
  cases hone with
  | app hone =>
      cases hother with
      | app hother => exact congrArg Workload.app (hone.unique hother hpackaging)
  | vnf hone =>
      cases hother with
      | vnf hother => exact congrArg Workload.vnf (hone.unique hother hpackaging)

/-- Definitions of one family that are written alike are the same. -/
theorem eq_of_to_json {one other : Definition} (hfamily : one.family = other.family)
    (h : one.toJson = other.toJson) : one = other := by
  cases one with
  | app one =>
      cases other with
      | app other =>
          have hread := congrArg AppMessage.ofMessage? h
          simp only [toJson, AppMessage.message_faithful.read_write] at hread
          exact congrArg app (Option.some.inj hread)
      | vnf other => cases hfamily
  | vnf one =>
      cases other with
      | app other => cases hfamily
      | vnf other =>
          have hread := congrArg VnfMessage.ofMessage? h
          simp only [toJson, VnfMessage.message_faithful.read_write] at hread
          exact congrArg vnf (Option.some.inj hread)

/-- The family in a definition is that of the workload. -/
theorem family_of_workload (workload : Workload) :
    (ofWorkload workload).family = workload.family := by
  cases workload <;> rfl

end Definition

end Agent

open Agent in
/-- The definition of a workload that passes its check carries the workload: cores and memory are the
same numbers with a sign, every other field is the same, and so are the ports in order, where the
empty protocol stands for all and for nothing else. It is all that is written to deploy a workload,
or to deploy it again. Two workloads of one family that pass their checks and are packed alike are
written alike only if they are the same. -/
theorem workload_message_lossless :
    (∀ workload : Workload, workload.check = .ok () →
        (Definition.ofWorkload workload).Carries workload) ∧
      (∀ packaging definition,
        (Request.deploy packaging definition).message = definition.toJson ∧
          (Request.redeploy definition).message = definition.toJson) ∧
      ∀ one other : Workload, one.check = .ok () → other.check = .ok () →
        one.family = other.family → one.packaging = other.packaging →
          (Definition.ofWorkload one).toJson = (Definition.ofWorkload other).toJson →
            one = other := by
  refine ⟨fun workload hcheck => Definition.carries hcheck, fun packaging definition => ?_, ?_⟩
  · cases definition <;> exact ⟨rfl, rfl⟩
  · intro one other hone hother hfamily hpackaging hwritten
    have hfamilies : (Definition.ofWorkload one).family = (Definition.ofWorkload other).family := by
      rw [Definition.family_of_workload, Definition.family_of_workload, hfamily]
    have hsame := Definition.eq_of_to_json hfamilies hwritten
    exact (Definition.carries hone).unique (hsame ▸ Definition.carries hother) hpackaging

namespace Agent.Sample

/-- An application that opens one port for a protocol and one for all. -/
def opened : Workload :=
  .app {
    id := "6a1f0c2e-3b4d-4e5f-8a9b-0c1d2e3f4a5b"
    packaging := .container
    name := "nginx"
    version := "1.25"
    vendor := "f5"
    description := "web frontend"
    cores := 8
    memory := 16384
    ports := [⟨80, .tcp⟩, ⟨5000, .all⟩]
    source := "http://images.example.net/nginx.tar.gz" }

/-- It passes its check. -/
theorem check_opened : opened.check = .ok () := by
  decide +kernel

end Agent.Sample

open Agent in
/-- An application with the largest footprint and a port for all protocols is the only one in a
container that is written as it is. -/
theorem workload_message_opened :
    (Definition.ofWorkload Sample.opened).Carries Sample.opened ∧
      ∀ other : Workload, other.check = .ok () → other.family = .app →
        other.packaging = .container →
          (Definition.ofWorkload other).toJson = (Definition.ofWorkload Sample.opened).toJson →
            other = Sample.opened := by
  obtain ⟨hcarries, -, hunique⟩ := workload_message_lossless
  refine ⟨hcarries _ Sample.check_opened, fun other hcheck hfamily hpackaging hwritten => ?_⟩
  exact hunique other Sample.opened hcheck Sample.check_opened hfamily hpackaging hwritten

end EdgeFleet
