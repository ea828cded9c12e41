import EdgeFleet.Proofs.Agent.Policy
import EdgeFleet.Proofs.Orchestration.Redeploy
import EdgeFleet.Proofs.Orchestration.Routing
import EdgeFleet.Proofs.Record.Filter

/-!
# Ports that are sent

Which ports the calls of a controller tell of, to nodes and to the cluster. Whatever a call has a
place for ports in tells of those that were given with the job, number by number
(`Controller.perform_tells`), so that it comes to what is given: what passes its check has ports
from 1 on in it, but for one kind of policy. The check of a `ClusterPolicy` does not look at the
numbers of ports, so that zero passes. The main result is `ports_real_iff`: all ports that are sent
for a job are real unless it is to set a policy with a port zero, and then they are not, as soon as
anything is sent.
-/

namespace EdgeFleet

/-- A range of ports, with its ends. -/
structure PortRange where
  first : Int
  last : Int
  deriving DecidableEq

namespace PortRange

/-- The range of one port. -/
def single (port : Int) : PortRange :=
  ⟨port, port⟩

/-- Whether a range has ports in it and nothing else. -/
def IsReal (range : PortRange) : Prop :=
  1 ≤ range.first ∧ range.first ≤ range.last ∧ range.last ≤ maxPort

instance (range : PortRange) : Decidable range.IsReal :=
  inferInstanceAs (Decidable (_ ∧ _))

/-- Whether a range would be real if zero were a port. -/
def Fits (range : PortRange) : Prop :=
  0 ≤ range.first ∧ range.first ≤ range.last ∧ range.last ≤ maxPort

theorem IsReal.fits {range : PortRange} (h : range.IsReal) : range.Fits :=
  ⟨Int.le_trans (by decide) h.1, h.2⟩

theorem single_real {port : Nat} : (single port).IsReal ↔ IsPort port := by
  simp only [IsReal, single, IsPort]
  omega

theorem single_fits {port : Nat} (h : port ≤ maxPort) : (single port).Fits := by
  simp only [Fits, single]
  omega

end PortRange

/-! ### What is given -/

/-- The ports that a workload exposes. -/
def Workload.portRanges (workload : Workload) : List PortRange :=
  workload.ports.map fun exposed => .single exposed.port.toNat

/-- The ports that a selector matches. -/
def Selector.portRanges (selector : Selector) : List PortRange :=
  selector.ip.toList.map fun filter => ⟨filter.beginPort.toNat, filter.endPort.toNat⟩

/-- The port of a new destination. -/
def IpRedirect.portRange (redirect : IpRedirect) : PortRange :=
  .single redirect.port.toNat

/-- The ports that a rule matches, and the one that it leads to. -/
def TrafficRule.portRanges (rule : TrafficRule) : List PortRange :=
  (rule.source.toList ++ rule.destination.toList).flatMap Selector.portRanges ++
    (rule.target.bind (·.ip)).toList.map IpRedirect.portRange

/-- The ports of the rules of a policy. -/
def TrafficPolicy.portRanges (policy : TrafficPolicy) : List PortRange :=
  policy.rules.flatMap TrafficRule.portRanges

/-- The ports that a rule lets through. -/
def ClusterRule.portRanges (rule : ClusterRule) : List PortRange :=
  rule.ports.map fun port => .single port.port.toNat

namespace ClusterPolicy

/-- The ports of the rules of a policy. -/
def portRanges (policy : ClusterPolicy) : List PortRange :=
  (policy.rules .egress ++ policy.rules .ingress).flatMap ClusterRule.portRanges

/-- Whether a rule of a policy has a port zero. -/
def hasPortZero (policy : ClusterPolicy) : Bool :=
  (policy.rules .egress ++ policy.rules .ingress).any fun rule => rule.ports.any (·.port == 0)

end ClusterPolicy

namespace Job

/-- The ports that are given with a job. -/
def portRanges : Job → List PortRange
  | .action (.deploy workload) | .action (.redeploy workload) => workload.portRanges
  | .setPolicy _ (.native policy) | .setInterfacePolicy _ policy => policy.portRanges
  | .setPolicy _ (.cluster policy) => policy.portRanges
  | _ => []

/-- Whether a job sets a policy with a port zero. -/
def setsPortZero : Job → Bool
  | .setPolicy _ (.cluster policy) => policy.hasPortZero
  | _ => false

/-- Whether what is given with a job passes its check. -/
def Passes : Job → Prop
  | .action given => given.Passes
  | .setPolicy _ payload => payload.check = .ok ()
  | .setInterfacePolicy _ policy => policy.check = .ok ()
  | _ => True

end Job

/-! ### What passes its check -/

theorem Workload.ports_real {workload : Workload} (h : workload.check = .ok ()) :
    ∀ range ∈ workload.portRanges, range.IsReal :=
  List.forall_mem_map.2 fun exposed hexposed =>
    PortRange.single_real.2 (Workload.exposes_ports h exposed hexposed)

theorem Selector.ports_real {selector : Selector} (h : selector.check = .ok ()) :
    ∀ range ∈ selector.portRanges, range.IsReal := by
  refine List.forall_mem_map.2 fun filter hfilter => ?_
  simp only [Selector.check, Check.bind_passes] at h
  obtain ⟨-, -, -, hip, -⟩ := h
  rw [Option.mem_def.1 (Option.mem_toList.1 hfilter)] at hip
  obtain ⟨hbegin, hend, hrange⟩ := IpFilter.matches_ports (Check.inside_passes.1 hip)
  have hle : filter.beginPort.toNat ≤ filter.endPort.toNat := hrange
  exact ⟨Int.ofNat_le.2 hbegin.1, Int.ofNat_le.2 hle, Int.ofNat_le.2 hend.2⟩

theorem TrafficRule.ports_real {rule : TrafficRule} (h : rule.check = .ok ()) :
    ∀ range ∈ rule.portRanges, range.IsReal := by
  obtain ⟨-, -, hselectors⟩ := selectors_pass h
  obtain ⟨target, htarget, htargetPasses⟩ := target_passes h
  have hredirect : ∀ redirect ∈ target.ip.toList, redirect.portRange.IsReal := by
    intro redirect hredirect
    simp only [RuleTarget.check, Check.bind_passes] at htargetPasses
    obtain ⟨-, -, -, -, hip⟩ := htargetPasses
    rw [Option.mem_def.1 (Option.mem_toList.1 hredirect)] at hip
    exact PortRange.single_real.2 (IpRedirect.leads_to_port (Check.inside_passes.1 hip))
  rw [portRanges, htarget, Option.bind_some]
  refine List.forall_mem_append.2 ⟨List.forall_mem_flatMap.2 fun selector hselector => ?_, ?_⟩
  · exact Selector.ports_real (hselectors selector hselector)
  · exact List.forall_mem_map.2 hredirect

theorem TrafficPolicy.ports_real {policy : TrafficPolicy} (h : policy.check = .ok ()) :
    ∀ range ∈ policy.portRanges, range.IsReal :=
  List.forall_mem_flatMap.2 fun rule hrule => TrafficRule.ports_real (rules_pass h rule hrule)

namespace ClusterPolicy

variable {policy : ClusterPolicy}

theorem ports_fit : ∀ range ∈ policy.portRanges, range.Fits :=
  List.forall_mem_flatMap.2 fun _ _ => List.forall_mem_map.2 fun port _ =>
    PortRange.single_fits (Nat.le_of_lt_succ port.port.toNat_lt)

/-- Here the check is of no help. -/
theorem ports_real_iff_zero :
    (∀ range ∈ policy.portRanges, range.IsReal) ↔ policy.hasPortZero = false := by
  have hport (port : ClusterPort) :
      (PortRange.single port.port.toNat).IsReal ↔ ¬ port.port = 0 := by
    have hlt := port.port.toNat_lt
    rw [PortRange.single_real, IsPort, maxPort, ← UInt16.toNat_inj, UInt16.toNat_zero]
    omega
  simp only [portRanges, ClusterRule.portRanges, hasPortZero, List.forall_mem_flatMap,
    List.forall_mem_map, hport, List.any_eq_false, Bool.not_eq_true, beq_eq_false_iff_ne, ne_eq]

end ClusterPolicy

namespace Job

variable {job : Job} (hpasses : job.Passes)
include hpasses

/-- The ports given with a job are real unless it sets a policy with a port zero. -/
theorem ports_real_iff_zero :
    (∀ range ∈ job.portRanges, range.IsReal) ↔ job.setsPortZero = false := by
  cases job with
  | action given =>
      cases given with
      | deploy workload => exact iff_of_true (Workload.ports_real hpasses) rfl
      | redeploy workload => exact iff_of_true (Workload.ports_real hpasses) rfl
      | _ => exact iff_of_true (List.forall_mem_nil _) rfl
  | setPolicy ref payload =>
      cases payload with
      | native policy => exact iff_of_true (TrafficPolicy.ports_real hpasses) rfl
      | cluster policy => exact ClusterPolicy.ports_real_iff_zero
  | setInterfacePolicy interface policy =>
      exact iff_of_true (TrafficPolicy.ports_real hpasses) rfl
  | _ => exact iff_of_true (List.forall_mem_nil _) rfl

theorem ports_fit : ∀ range ∈ job.portRanges, range.Fits := by
  by_cases hzero : job.setsPortZero = false
  · exact fun range hrange => ((ports_real_iff_zero hpasses).2 hzero range hrange).fits
  · -- Only a policy for the cluster can have a port zero.
    cases job with
    | setPolicy ref payload =>
        cases payload with
        | native policy => exact absurd rfl hzero
        | cluster policy => exact ClusterPolicy.ports_fit
    | _ => exact absurd rfl hzero

end Job

/-! ### What is told of -/

namespace Agent

/-- The ports of the definition of a workload. -/
def Definition.portRanges : Definition → List PortRange
  | .app message => message.ports.map fun port => .single port.port.toNat
  | .vnf _ => []

/-- The ports that a rule matches, and the one that it leads to. -/
def Rule.portRanges (rule : Rule) : List PortRange :=
  (rule.source.toList ++ rule.destination.toList).flatMap Selector.portRanges ++
    (rule.target.bind (·.ip)).toList.map IpRedirect.portRange

/-- The ports of the rules of a policy. -/
def Policy.portRanges (policy : Policy) : List PortRange :=
  policy.rules.flatMap Rule.portRanges

/-- The ports that a node is told of, if the request has a place for ports. -/
def Request.portRanges? : Request → Option (List PortRange)
  | .deploy _ definition | .redeploy definition => some definition.portRanges
  | .setPolicy policy | .setInterfacePolicy policy => some policy.portRanges
  | _ => none

theorem Definition.ports_of_workload (workload : Workload) :
    (Definition.ofWorkload workload).portRanges = workload.portRanges := by
  cases workload with
  | app app =>
      simp only [ofWorkload, portRanges, AppMessage.ofApp, List.map_map, Workload.portRanges,
        Workload.ports, Function.comp_def]
  | vnf vnf => rfl

/-- A rule keeps its ports; only its action is put into a number. -/
theorem Rule.ports_of_rule {rule : TrafficRule} {message : Rule} (h : ofRule rule = .ok message) :
    message.portRanges = rule.portRanges := by
  obtain ⟨target, htarget, h⟩ := bind_ok h
  obtain rfl := Except.ok.inj h
  have hip : target.bind (·.ip) = rule.target.bind (·.ip) := by
    cases hgiven : rule.target with
    | none =>
        rw [hgiven] at htarget
        obtain rfl := Except.ok.inj htarget
        rfl
    | some given =>
        rw [hgiven, Option.mapM_some] at htarget
        obtain ⟨outcome, houtcome, htarget⟩ := bind_ok htarget
        obtain rfl := Except.ok.inj htarget
        obtain ⟨action, -, houtcome⟩ := bind_ok houtcome
        obtain rfl := Except.ok.inj houtcome
        rfl
  rw [portRanges, hip, TrafficRule.portRanges]

theorem Policy.ports_of_traffic {id : String} {policy : TrafficPolicy} {message : Policy}
    (h : ofTraffic id policy = .ok message) : message.portRanges = policy.portRanges :=
  flat_map_eq_of_forall₂ (of_traffic_eq h).2.2 fun _ _ => Rule.ports_of_rule

end Agent

namespace Cluster

/-- The ports that the containers of a deployment open. -/
def Deployment.portRanges (deployment : Deployment) : List PortRange :=
  (deployment.pods?.toList.flatMap (·.containers)).flatMap fun container =>
    (container.ports.getD []).map fun port => .single port.port

/-- The ports that a rule of a network policy lets through. -/
def PolicyRule.portRanges (rule : PolicyRule) : List PortRange :=
  (rule.ports.getD []).flatMap fun port => port.port.toList.map .single

/-- The ports of the rules of a network policy. -/
def NetworkPolicy.portRanges (policy : NetworkPolicy) : List PortRange :=
  (policy.spec.toList.flatMap fun spec => spec.rules .egress ++ spec.rules .ingress).flatMap
    PolicyRule.portRanges

/-- The ports that the cluster is told of, if the request has a place for ports. -/
def Request.portRanges? : Request → Option (List PortRange)
  | .createDeployment deployment | .applyDeployment deployment => some deployment.portRanges
  | .applyNetworkPolicy policy => some policy.portRanges
  | _ => none

theorem Deployment.ports_of_pins {nodeId : String} {workload : Workload} {deployment : Deployment}
    (h : deployment.Pins nodeId workload) : deployment.portRanges = workload.portRanges := by
  obtain ⟨container, hcontainers, hopens⟩ := h.ports
  obtain ⟨pods, hpods, hcontainer⟩ := Option.map_eq_some_iff.1 hcontainers
  simp only [portRanges, hpods, hcontainer, Option.toList_some, List.flatMap_cons,
    List.flatMap_nil, List.append_nil]
  exact map_eq_of_forall₂ hopens fun _ _ hopened => congrArg PortRange.single hopened.number

theorem PolicyRule.ports_of_rule {given : ClusterRule} {translated : PolicyRule}
    (h : ofRule given = .ok translated) : translated.portRanges = given.portRanges := by
  obtain ⟨ports, hports, h⟩ := bind_ok h
  obtain rfl := Except.ok.inj h
  rw [portRanges, NetworkPolicy.unless_empty_get, ClusterRule.portRanges, List.map_eq_flatMap]
  refine flat_map_eq_of_forall₂ (map_all_iff.1 hports) fun port sent hport => ?_
  obtain ⟨protocol, -, hport⟩ := bind_ok hport
  obtain rfl := Except.ok.inj hport
  rfl

theorem NetworkPolicy.ports_of_policy {policy : ClusterPolicy} {name namespaceName : String}
    {pods : Labels} {object : NetworkPolicy}
    (h : ofPolicy policy name namespaceName pods = .ok object) :
    object.portRanges = policy.portRanges := by
  have hrules {given : List ClusterRule} {translated : Option (List PolicyRule)}
      (h : rules given = .ok translated) :
      (translated.getD []).flatMap PolicyRule.portRanges =
        given.flatMap ClusterRule.portRanges :=
    flat_map_eq_of_forall₂ (rules_each h) fun _ _ => PolicyRule.ports_of_rule
  rw [of_policy_eq] at h
  obtain ⟨passed, -, h⟩ := bind_ok h
  obtain ⟨egress, hegress, h⟩ := bind_ok h
  obtain ⟨ingress, hingress, h⟩ := bind_ok h
  obtain rfl := Except.ok.inj h
  simp only [portRanges, Option.toList_some, List.flatMap_cons, List.flatMap_nil, List.append_nil,
    NetworkPolicySpec.rules, List.flatMap_append, hrules hegress, hrules hingress,
    ClusterPolicy.portRanges, ClusterPolicy.rules]

end Cluster

namespace Call

/-- The ports that a call tells of, if it has a place for ports. -/
def portRanges? : Call → Option (List PortRange)
  | .agent _ _ request => request.portRanges?
  | .cluster request => request.portRanges?
  | _ => none

/-- Whether all ports that a call tells of are real. -/
def HasRealPorts (call : Call) : Prop :=
  ∀ ranges ∈ call.portRanges?, ∀ range ∈ ranges, range.IsReal

instance (call : Call) : Decidable call.HasRealPorts :=
  match h : call.portRanges? with
  | none => isTrue (by simp [HasRealPorts, h])
  | some ranges => decidable_of_iff (∀ range ∈ ranges, range.IsReal) (by simp [HasRealPorts, h])

end Call

/-! ### What is sent -/

/-- A call for a job tells of the ports that are given with the job. It may be one that has no place
for them, unless the job sets a policy with a port zero. -/
def Job.Tells (job : Job) (call : Call) : Prop :=
  call.portRanges? = some job.portRanges ∨ call.portRanges? = none ∧ job.setsPortZero = false

namespace Job.Tells

variable {job : Job} {call : Call}

theorem ranges_eq (h : job.Tells call) : ∀ ranges ∈ call.portRanges?, ranges = job.portRanges := by
  rcases h with htold | ⟨hnone, -⟩
  · simp [htold, eq_comm]
  · simp [hnone]

theorem real_iff (hpasses : job.Passes) (h : job.Tells call) :
    call.HasRealPorts ↔ job.setsPortZero = false := by
  rcases h with htold | ⟨hnone, hzero⟩
  · simp [Call.HasRealPorts, htold, ports_real_iff_zero hpasses]
  · simp [Call.HasRealPorts, hnone, hzero]

end Job.Tells

/-- What a node is told for a job, if the request has the ports of the job. -/
theorem Broker.Tells.tells {broker : Broker} {nodeId : String} {request : Agent.Request}
    {call : Call} (h : broker.Tells nodeId request call) {job : Job}
    (hzero : job.setsPortZero = false)
    (hrequest : request.portRanges? = some job.portRanges ∨ request.portRanges? = none) :
    job.Tells call := by
  cases h with
  | dial _ => exact .inr ⟨rfl, hzero⟩
  | send context => exact hrequest.imp_right fun hnone => ⟨hnone, hzero⟩

/-- The message that removes a policy tells of no ports. -/
theorem Agent.Policy.ports_of_none {id : String} {message : Policy}
    (h : ofTraffic? id none = .ok message) : message.portRanges = [] := by
  obtain rfl := Except.ok.inj h
  rfl

theorem Native.makes_tells {broker : Broker} {nodeId : String} {job : Job} {call : Call}
    (h : Makes broker nodeId job call) : job.Tells call := by
  obtain ⟨request, hsends, hcall⟩ := h
  cases hsends with
  | deploy workload | redeploy workload =>
      exact hcall.tells rfl (.inl (congrArg some (Agent.Definition.ports_of_workload workload)))
  | setPolicy hmessage =>
      exact hcall.tells rfl (.inl (congrArg some (Agent.Policy.ports_of_traffic hmessage)))
  | deletePolicy hmessage =>
      exact hcall.tells rfl (.inl (congrArg some (Agent.Policy.ports_of_none hmessage)))
  | command _ _ | status _ | undeploy _ => exact hcall.tells rfl (.inr rfl)

namespace Cluster.Placing

variable {placing : Placing} {nodeId : String} {job : Job} {call : Call}

theorem Builds.ports_eq {workload : Workload} {count : Int} {deployment : Deployment}
    (h : placing.Builds nodeId workload count deployment) (hcheck : workload.check = .ok ()) :
    deployment.portRanges = workload.portRanges := by
  obtain ⟨serial, -, hbuild⟩ := h
  exact Deployment.ports_of_pins (Deployment.pins_of_workload hcheck hbuild)

theorem Makes.tells (hpasses : job.Passes) (h : placing.Makes nodeId job call) :
    job.Tells call := by
  induction h with
  | create hbuilds | apply hbuilds => exact .inl (congrArg some (hbuilds.ports_eq hpasses))
  | @applyPolicy ref payload serial object _ _ hobject =>
      cases payload with
      | native policy => cases hobject
      | cluster policy => exact .inl (congrArg some (NetworkPolicy.ports_of_policy hobject))
  | setOnNode _ h | deleteOnNode _ h => exact Native.makes_tells h
  | clear _ ih => exact ih trivial
  | count _ | fetchToRedeploy _ | fetchToCommand _ | fetchStatus _ | scale _ _ | delete _
  | deletePolicy _ _ => exact .inr ⟨rfl, rfl⟩

end Cluster.Placing

namespace Controller

variable {settings : Settings} {broker : Broker} {hasCluster : Bool} {controller : Controller}
  {nodeId : String} {job : Job}

theorem Tells.tells {call : Call} (h : controller.Tells nodeId job call) : job.Tells call := by
  cases h with
  | register _ | connect _ => exact .inr ⟨rfl, rfl⟩
  | tell hsends hcall =>
      cases hsends with
      | setInterfacePolicy _ hmessage =>
          exact hcall.tells rfl (.inl (congrArg some (Agent.Policy.ports_of_traffic hmessage)))
      | deleteInterfacePolicy _ hmessage =>
          exact hcall.tells rfl (.inl (congrArg some (Agent.Policy.ports_of_none hmessage)))
      | record change _ _ _ | forwarders change _ _ =>
          cases change <;> exact hcall.tells rfl (.inr rfl)
      | interfaces | interface _ | updateInterface _ | updateInterfaces _ =>
          exact hcall.tells rfl (.inr rfl)

/-- No call is made for a job unless what is given with it passes its check. -/
theorem perform_passes (controller : Controller) (nodeId : String) (job : Job) :
    (controller.perform nodeId job).program.Only fun _ => job.Passes := by
  have hany {α : Type} {program : Program α} {passes : Prop} (h : passes) :
      program.Only fun _ => passes :=
    (Program.only_any program).mono fun _ _ => h
  cases job with
  | action action =>
      refine .bind ?_ fun _ => trivial
      cases action with
      | deploy workload =>
          exact .bind (.lift fun _ hcheck => hany (map_error_ok.1 hcheck)) fun _ => trivial
      | redeploy workload =>
          exact .bind (.lift fun _ hcheck => hany (map_error_ok.1 hcheck)) fun _ => trivial
      | command ref command =>
          exact .bind (.lift fun _ hid => hany (check_ref_ok_iff.1 hid)) fun _ => trivial
      | undeploy ref =>
          exact .bind (.lift fun _ hid => hany (check_ref_ok_iff.1 hid)) fun _ => trivial
  | setPolicy ref payload =>
      exact .lift fun _ _ => .lift fun _ _ => .lift fun _ hcheck => hany (map_error_ok.1 hcheck)
  | setInterfacePolicy interface policy =>
      exact .lift fun _ _ => .lift fun _ hmessage => hany (Agent.Policy.of_traffic_eq hmessage).1
  | _ => exact hany trivial

/-- Every call that a controller makes for a job tells of the ports that are given with it, and they
have passed their check. -/
theorem perform_tells (hcontroller : ofSettings settings broker hasCluster = .ok controller)
    (nodeId : String) (job : Job) :
    (controller.perform nodeId job).program.Only fun call => job.Passes ∧ job.Tells call := by
  obtain rfl := of_settings_ok hcontroller
  have hbackend : (backendOf settings broker settings.mode).Only nodeId fun job call =>
      job.Passes → job.Tells call := by
    cases settings.mode with
    | native => exact (Native.backend_only broker nodeId).mono fun _ _ h _ => Native.makes_tells h
    | kubernetes =>
        exact ((placing settings broker (.node broker)).backend_only nodeId).mono
          fun _ _ h hpasses => h.tells hpasses
    | kubernetesOvn =>
        exact ((placing settings broker .networkPolicy).backend_only nodeId).mono
          fun _ _ h hpasses => h.tells hpasses
  have hperform := perform_only ⟨settings.mode, broker, _⟩ hbackend (fun h _ => h.tells) job
  exact ((perform_passes _ nodeId job).and hperform).mono fun _ h => ⟨h.1, h.2 h.1⟩

/-- What a single job does in a world. -/
theorem perform_real_iff (hcontroller : ofSettings settings broker hasCluster = .ok controller)
    {σ : Type} (world : World σ) (nodeId : String) (job : Job) (state : σ) :
    let operation := controller.perform nodeId job
    let calls := (operation.program.exchanges world operation.name state).map (·.call)
    (∀ call ∈ calls, ∀ ranges ∈ call.portRanges?,
        ranges = job.portRanges ∧ ∀ range ∈ ranges, range.Fits) ∧
      ((∀ call ∈ calls, call.HasRealPorts) ↔ (job.setsPortZero → calls = [])) := by
  intro operation calls
  have htells : ∀ call ∈ calls, job.Passes ∧ job.Tells call :=
    List.forall_mem_map.2 ((perform_tells hcontroller nodeId job).exchanges world _ state)
  refine ⟨fun call hcall ranges hranges => ?_, fun hreal hzero => ?_, fun hnone call hcall => ?_⟩
  · obtain ⟨hpasses, htells⟩ := htells call hcall
    obtain rfl := htells.ranges_eq ranges hranges
    exact ⟨rfl, Job.ports_fit hpasses⟩
  · refine List.eq_nil_iff_forall_not_mem.2 fun call hcall => ?_
    obtain ⟨hpasses, htells⟩ := htells call hcall
    exact Bool.noConfusion (hzero.symm.trans ((htells.real_iff hpasses).1 (hreal call hcall)))
  · obtain ⟨hpasses, htells⟩ := htells call hcall
    refine (htells.real_iff hpasses).2 (Bool.eq_false_iff.2 fun hzero => ?_)
    rw [hnone hzero] at hcall
    cases hcall

end Controller

/-- In every run of jobs, in any world, whatever is sent for a job and has a place for ports tells
of just the ports that are given with the job, in order and none too large. All of them are real
unless the job sets a policy with a port zero; then they are not, as soon as anything is sent. -/
theorem ports_real_iff {σ : Type} {settings : Settings} {broker : Broker} {hasCluster : Bool}
    {controller : Controller}
    (hcontroller : Controller.ofSettings settings broker hasCluster = .ok controller)
    (world : World σ) (requests : List (String × Job)) (state : σ) :
    ∀ entry ∈ controller.journal world requests state,
      (∀ call ∈ entry.calls, ∀ ranges ∈ call.portRanges?,
          ranges = entry.job.portRanges ∧ ∀ range ∈ ranges, range.Fits) ∧
        ((∀ call ∈ entry.calls, call.HasRealPorts) ↔
          (entry.job.setsPortZero → entry.calls = [])) := by
  induction requests generalizing state with
  | nil => simp [Controller.journal]
  | cons request rest ih =>
      obtain ⟨nodeId, job⟩ := request
      have hfirst := Controller.perform_real_iff hcontroller world nodeId job state
      exact List.forall_mem_cons.2 ⟨hfirst, ih _⟩

open Sample in
/-- An application and its policy are sent with the ports that they have. -/
theorem ports_real_deploy :
    let journal := controller.journal Script.world
      [(node.id, .action (.deploy (.app app))), (node.id, .setPolicy ref (.cluster coreOnly))]
      (Sample.script Sample.bare [])
    journal.map (fun entry => entry.calls.map Call.portRanges?) =
        [[none, some [.single 80]], [some [.single 443]]] ∧
      ∀ entry ∈ journal, ∀ call ∈ entry.calls, call.HasRealPorts := by
  intro journal
  have hlacks : ∀ entry ∈ journal, entry.job.setsPortZero = false := by decide +kernel
  refine ⟨by decide +kernel, fun entry hentry => ?_⟩
  refine (ports_real_iff of_settings Script.world _ _ entry hentry).2.2 fun hzero => ?_
  exact Bool.noConfusion (hzero.symm.trans (hlacks entry hentry))

namespace Sample

/-- A policy that is meant for all ports. -/
def portZero : ClusterPolicy :=
  { coreOnly with egress := [⟨"to core", [], [⟨0, "Tcp"⟩]⟩] }

end Sample

open Sample in
/-- A policy with a port zero passes its check and is put in place: the cluster is told of a port
that is none. -/
theorem port_zero_sent :
    portZero.check = .ok () ∧
      let journal := controller.journal Script.world
        [(node.id, .setPolicy ref (.cluster portZero))] (Sample.script (store 1) [])
      journal.map (fun entry => (entry.result.toOption, entry.calls.map Call.portRanges?)) =
          [(some (), [some [.single 0]])] ∧
        ¬ ∀ entry ∈ journal, ∀ call ∈ entry.calls, call.HasRealPorts :=
  ⟨Check.eq_ok (by decide +kernel), by decide +kernel, by decide +kernel⟩

end EdgeFleet
