import EdgeFleet.Cluster.Client
import EdgeFleet.Proofs.Orchestration.Calls
import EdgeFleet.Proofs.Orchestration.Exchange
import EdgeFleet.Proofs.Record.Port

/-!
# What a redeploy leaves alone

The cluster lets little of a deployment change once it is there. `Deployment.fixed` is a deployment
without the parts in which two deployments of one workload on one node may differ, and
`Deployment.Pins` says how the other parts of a deployment go together. `redeploy_keeps_fixed` is
the main result: what a redeploy puts in the place of a deployment is the same in all of them.
-/

namespace EdgeFleet

namespace Cluster

/-! ### Ports -/

namespace ContainerPort

/-- Whether a port is the one for an exposed port. -/
structure Opens (exposed : ExposedPort) (port : ContainerPort) : Prop where
  isPort : IsPort exposed.port.toNat
  number : port.port = exposed.port.toNat
  protocol : port.protocol = some exposed.protocol.name.toUpper

/-- The cluster has the names of protocols in capitals. -/
theorem capitals : PortProtocol.tcp.name.toUpper = "TCP" ∧
    PortProtocol.udp.name.toUpper = "UDP" ∧ PortProtocol.sctp.name.toUpper = "SCTP" := by
  decide +kernel

theorem opens_of_exposed {exposed : ExposedPort} {port : ContainerPort}
    (hport : IsPort exposed.port.toNat) (h : ofExposed exposed = .ok port) :
    Opens exposed port := by
  have hnumber : exposed.port.toInt32.toInt = exposed.port.toNat := by
    have hhigh : exposed.port.toNat ≤ 65535 := hport.2
    exact signed_eq (by omega)
  obtain ⟨htcp, hudp, hsctp⟩ := capitals
  unfold ofExposed at h
  split at h
  case h_1 hprotocol => exact Except.ok.inj h ▸ ⟨hport, hnumber, by rw [hprotocol, htcp]⟩
  case h_2 hprotocol => exact Except.ok.inj h ▸ ⟨hport, hnumber, by rw [hprotocol, hudp]⟩
  case h_3 hprotocol => exact Except.ok.inj h ▸ ⟨hport, hnumber, by rw [hprotocol, hsctp]⟩
  all_goals cases h

/-- Two protocols have no counterpart in the cluster. -/
theorem knows_iff {protocol : PortProtocol} :
    knows protocol = true ↔ ¬ (protocol = .icmp ∨ protocol = .all) := by
  cases protocol <;> simp [knows]

end ContainerPort

/-! ### Deployments -/

/-- A container without its ports and without how much it may use of processors and memory. -/
def Container.fixed (container : Container) : Container :=
  { container with
    ports := none
    limits := container.limits.map (·.filter fun limit => limit.1 ∉ ["cpu", "memory"]) }

namespace Deployment

/-- The pods of a deployment. -/
def pods? (deployment : Deployment) : Option PodSpec :=
  deployment.spec.bind (·.template.spec)

/-- A deployment without the number of copies and without what may change of its containers. -/
def fixed (deployment : Deployment) : Deployment :=
  { deployment with
    spec := deployment.spec.map fun spec => { spec with
      replicas := none
      template := { spec.template with
        spec := spec.template.spec.map fun pods => { pods with
          containers := pods.containers.map Container.fixed } } } }

/-- How the parts of the deployment of a workload on a node go together. -/
structure Pins (nodeId : String) (workload : Workload) (deployment : Deployment) : Prop where
  /-- A deployment selects pods by the labels that it has itself, and its pods have these labels. -/
  labels : ∃ labels, deployment.metadata.labels = some labels ∧
    deployment.spec.map (·.selector) = some ⟨some labels⟩ ∧
    deployment.spec.bind (·.template.metadata) = some ⟨none, none, some labels⟩
  /-- Pods run on the machines that carry the label by which the machines of a node are counted. -/
  machine : ∃ key value, (deployment.pods?.bind (·.machineLabels)) = some [(key, value)] ∧
    ∀ client : Client, client.encode (.countNodes nodeId) =
      Client.build .get (Client.withParameters "/api/v1/nodes"
        [("labelSelector", key ++ "=" ++ value)]) none
  /-- There is one container, and it opens the ports that the workload exposes, in their order. -/
  ports : ∃ container, deployment.pods?.map (·.containers) = some [container] ∧
    List.Forall₂ ContainerPort.Opens workload.ports (container.ports.getD [])

variable {namespaceName pullPolicy nodeId serial : String}

variable {workload : Workload} {count : Int}

/-- A deployment is built unless the workload is a virtual machine or exposes a port of a protocol
that the cluster does not know. -/
theorem of_workload_error_iff :
    (∃ error, ofWorkload namespaceName pullPolicy nodeId serial workload count = .error error) ↔
      workload.packaging = .vm ∨
        ∃ exposed ∈ workload.ports, exposed.protocol = .icmp ∨ exposed.protocol = .all := by
  have hcondition : (workload.packaging = .vm ∨
      ∃ exposed ∈ workload.ports, exposed.protocol = .icmp ∨ exposed.protocol = .all) ↔
        ¬ (workload.packaging = .container ∧
          ∀ exposed ∈ workload.ports, ContainerPort.knows exposed.protocol) := by
    cases workload.packaging <;> simp [ContainerPort.knows_iff, or_iff_not_imp_left]
  rw [hcondition]
  constructor
  · rintro ⟨error, herror⟩ hbuildable
    obtain ⟨deployment, hbuilt⟩ := of_workload_ok hbuildable.1 hbuildable.2
    cases herror.symm.trans hbuilt
  · intro hrefused
    obtain ⟨cause, herror⟩ := of_workload_refused hrefused
    exact ⟨_, herror⟩

/-- A deployment that cannot be built is a violation. -/
theorem of_workload_error {error : Error}
    (h : ofWorkload namespaceName pullPolicy nodeId serial workload count = .error error) :
    ∃ cause, error = .validation cause := by
  by_cases hbuildable : workload.packaging = .container ∧
      ∀ exposed ∈ workload.ports, ContainerPort.knows exposed.protocol
  · obtain ⟨deployment, hbuilt⟩ := of_workload_ok hbuildable.1 hbuildable.2
    cases h.symm.trans hbuilt
  · obtain ⟨cause, hrefused⟩ := of_workload_refused hbuildable
    exact ⟨cause, Except.error.inj (h.symm.trans hrefused)⟩

/-- The parts of a deployment that is built for a workload that passes its check go together. -/
theorem pins_of_workload {deployment : Deployment} (hcheck : workload.check = .ok ())
    (h : ofWorkload namespaceName pullPolicy nodeId serial workload count = .ok deployment) :
    deployment.Pins nodeId workload := by
  obtain ⟨-, ports, hports, rfl⟩ := of_workload_iff.1 h
  refine ⟨⟨_, rfl, rfl, rfl⟩, ⟨nodeLabel, nodeId, rfl, fun client => rfl⟩, ⟨_, rfl, ?_⟩⟩
  have hopens : List.Forall₂ ContainerPort.Opens workload.ports ports :=
    ((List.forall₂_and_left _ _).2 ⟨Workload.exposes_ports hcheck, map_all_iff.1 hports⟩).imp
      fun _ _ hopened => ContainerPort.opens_of_exposed hopened.1 hopened.2
  cases ports with
  | nil => exact hopens
  | cons first rest => exact hopens

/-- What is built for workloads of one ID, for one node, is the same in all that a redeploy must
leave alone. -/
theorem fixed_of_workload {other : Workload} {otherCount : Int} {before after : Deployment}
    (hid : workload.id = other.id)
    (hbefore : ofWorkload namespaceName pullPolicy nodeId serial workload count = .ok before)
    (hafter : ofWorkload namespaceName pullPolicy nodeId serial other otherCount = .ok after) :
    before.fixed = after.fixed := by
  obtain ⟨-, ports, -, rfl⟩ := of_workload_iff.1 hbefore
  obtain ⟨-, others, -, rfl⟩ := of_workload_iff.1 hafter
  simp [fixed, hid, container, Container.fixed]

end Deployment

namespace Placing

/-- What is built for workloads of one ID on one node is the same in all that a redeploy must leave
alone. -/
theorem Builds.fixed_eq {placing : Placing} {nodeId : String} {workload other : Workload}
    {count otherCount : Int} {before after : Deployment} (hid : workload.id = other.id)
    (hbefore : placing.Builds nodeId workload count before)
    (hafter : placing.Builds nodeId other otherCount after) : before.fixed = after.fixed := by
  obtain ⟨serial, hserial, hbuilt⟩ := hbefore
  obtain ⟨found, hfound, hrebuilt⟩ := hafter
  obtain rfl := Except.ok.inj (hserial.symm.trans hfound)
  exact Deployment.fixed_of_workload hid hbuilt hrebuilt

section Calls

variable {placing : Placing} {nodeId : String} {workload : Workload} {σ : Type} {world : World σ}
  {operation : String} {state : σ}

/-- Deploying creates nothing else than what is built, and counts no other machines. -/
theorem makes_of_deployed {call : Call}
    (h : call ∈ ((placing.deploy nodeId workload).exchanges world operation state).map
      Exchange.call) : placing.Makes nodeId (.action (.deploy workload)) call := by
  obtain ⟨made, hmade, rfl⟩ := List.mem_map.1 h
  exact (placing.deploy_only nodeId workload).exchanges world operation state made hmade

/-- Redeploying applies nothing else than what is built. -/
theorem builds_of_applied {deployment : Deployment}
    (h : .cluster (.applyDeployment deployment) ∈
      ((placing.redeploy nodeId workload).exchanges world operation state).map Exchange.call) :
    ∃ count, placing.Builds nodeId workload count deployment := by
  obtain ⟨made, hmade, hcall⟩ := List.mem_map.1 h
  have hmakes := (placing.redeploy_only nodeId workload).exchanges world operation state made hmade
  rw [hcall] at hmakes
  cases hmakes with
  | apply hbuilds => exact ⟨_, hbuilds⟩

end Calls

/-- Redeploying a workload changes nothing of its deployment but the number of copies, the ports and
the limits of its container. A deployment cannot be built for a virtual machine and for a port of a
protocol that the cluster does not know, which is told as a violation. Any two that are built for
workloads of one ID, for one node and serial number, agree in the other parts, and these go together
as the cluster needs them. So whatever a deployment was created or applied with, what a redeploy
applies later agrees with it. -/
theorem redeploy_keeps_fixed (placing : Placing) (nodeId : String) {old new : Workload}
    (hold : old.check = .ok ()) (hnew : new.check = .ok ()) (hid : old.id = new.id) :
    (∀ (serial : String) (workload : Workload) (count : Int),
      ((∃ error, placing.build nodeId serial workload count = .error error) ↔
        workload.packaging = .vm ∨
          ∃ exposed ∈ workload.ports, exposed.protocol = .icmp ∨ exposed.protocol = .all) ∧
      ∀ error, placing.build nodeId serial workload count = .error error →
        ∃ cause, error = .validation cause) ∧
    (∀ (serial : String) (oldCount newCount : Int) (before after : Deployment),
      placing.build nodeId serial old oldCount = .ok before →
      placing.build nodeId serial new newCount = .ok after →
        before.fixed = after.fixed ∧ before.Pins nodeId old ∧ after.Pins nodeId new) ∧
    ∀ (σ τ : Type) (world : World σ) (elsewhere : World τ) (operation again : String) (state : σ)
      (start : τ),
      let deployed := (placing.deploy nodeId old).exchanges world operation state
      let redeployed := (placing.redeploy nodeId old).exchanges world operation state
      let replaced := (placing.redeploy nodeId new).exchanges elsewhere again start
      (∀ id, .cluster (.countNodes id) ∈ deployed.map Exchange.call → id = nodeId) ∧
      ∀ before after, .cluster (.createDeployment before) ∈ deployed.map Exchange.call ∨
          .cluster (.applyDeployment before) ∈ redeployed.map Exchange.call →
        .cluster (.applyDeployment after) ∈ replaced.map Exchange.call →
          before.fixed = after.fixed := by
  refine ⟨fun serial workload count => ⟨Deployment.of_workload_error_iff, fun error herror => ?_⟩,
    fun serial oldCount newCount before after hbefore hafter => ?_,
    fun σ τ world elsewhere operation again state start => ⟨fun id hcount => ?_,
      fun before after hbefore hafter => ?_⟩⟩
  · exact Deployment.of_workload_error herror
  · exact ⟨Deployment.fixed_of_workload hid hbefore hafter,
      Deployment.pins_of_workload hold hbefore, Deployment.pins_of_workload hnew hafter⟩
  · cases makes_of_deployed hcount
    rfl
  · obtain ⟨count, hrebuilt⟩ := builds_of_applied hafter
    obtain hcreated | happlied := hbefore
    · cases makes_of_deployed hcreated with
      | create hbuilt => exact hbuilt.fixed_eq hid hrebuilt
    · obtain ⟨oldCount, hbuilt⟩ := builds_of_applied happlied
      exact hbuilt.fixed_eq hid hrebuilt

end Placing

end Cluster

namespace Sample

/-- The application with other ports, and with more of what it may use. -/
def grown : App :=
  { app with cores := 4, memory := 1024, ports := [⟨443, .tcp⟩, ⟨53, .udp⟩] }

end Sample

open Sample Cluster in
/-- The application grows without a change to what a redeploy must leave alone. -/
theorem redeploy_keeps_fixed_grown :
    let placing := Controller.placing settings broker .networkPolicy
    (Workload.app app).check = .ok () ∧ (Workload.app grown).check = .ok () ∧
      ∃ before after, placing.build node.id node.serial (.app app) 1 = .ok before ∧
        placing.build node.id node.serial (.app grown) 1 = .ok after ∧ before ≠ after ∧
        before.fixed = after.fixed := by
  intro placing
  have hgrown : (Workload.app grown).check = .ok () := Check.eq_ok (by decide +kernel)
  obtain ⟨-, hbuilt, -⟩ := Placing.redeploy_keeps_fixed placing node.id check_app hgrown rfl
  obtain ⟨hfixed, -, -⟩ := hbuilt node.serial 1 1 _ _ rfl rfl
  exact ⟨check_app, hgrown, _, _, rfl, rfl, by decide +kernel, hfixed⟩

end EdgeFleet
