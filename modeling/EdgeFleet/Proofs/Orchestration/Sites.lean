import EdgeFleet.Proofs.Cluster.Naming
import EdgeFleet.Proofs.Inventory
import EdgeFleet.Proofs.Orchestration.Objects
import Mathlib.Data.Set.Function

/-!
# Sites and what they share

A site is a node of an inventory together with a workload of it, and everything that the cluster
keeps for a site is named after the ID of the workload and the serial number of the node. An
inventory compares neither serial numbers nor the IDs of applications with those of network
functions. `Inventory.named_inj_iff` says exactly when names tell the sites of an inventory apart,
and `sites_apart` that then no operation on one site reads or changes what belongs to another.
`serial_shared` shows what happens on two nodes of one serial number.
-/

namespace EdgeFleet

open Cluster

/-- A workload on a node. -/
@[ext]
structure Site where
  node : Node
  workload : Workload
  deriving DecidableEq

namespace Site

/-- The name of a site. -/
def named (naming : String → String → String) (site : Site) : String :=
  naming site.workload.id site.node.serial

/-- The objects that the cluster keeps for a site. -/
def objects (site : Site) : Set ObjectKey :=
  {.deployment (site.named deploymentName), .policy (site.named networkPolicyName)}

/-- Sites whose names differ share no object. -/
theorem objects_disjoint {site other : Site}
    (h : ∀ naming ∈ namings, site.named naming ≠ other.named naming) {key : ObjectKey}
    (hkey : key ∈ site.objects) : key ∉ other.objects := by
  have hdeployment := h deploymentName (by simp [namings])
  have hpolicy := h networkPolicyName (by simp [namings])
  obtain rfl | rfl := hkey
  · rintro (heq | heq)
    · exact hdeployment (ObjectKey.deployment.inj heq)
    · cases heq
  · rintro (heq | heq)
    · cases heq
    · exact hpolicy (ObjectKey.policy.inj heq)

end Site

namespace Inventory

variable {inventory : Inventory} {records : List Record}

/-- The workloads of an inventory. -/
def workloads (inventory : Inventory) : List Workload :=
  inventory.apps.map .app ++ inventory.vnfs.map .vnf

/-- Every workload of an inventory on every node of it. -/
def sites (inventory : Inventory) : Set Site :=
  {site | site.node ∈ inventory.nodes ∧ site.workload ∈ inventory.workloads}

/-- Whether the serial numbers of an inventory tell its nodes apart, and the IDs its applications
from its network functions, as far as there are any sites that this matters for. -/
structure Unshared (inventory : Inventory) : Prop where
  serials : inventory.workloads ≠ [] → Set.InjOn Node.serial {node | node ∈ inventory.nodes}
  families : inventory.nodes ≠ [] →
    ∀ app ∈ inventory.apps, ∀ vnf ∈ inventory.vnfs, app.id ≠ vnf.id

/-- The workloads of an inventory are its applications and its network functions. -/
theorem mem_workloads {workload : Workload} : workload ∈ inventory.workloads ↔
    (∃ app ∈ inventory.apps, workload = .app app) ∨
      ∃ vnf ∈ inventory.vnfs, workload = .vnf vnf := by
  simp [workloads, eq_comm]

variable (hrecords : ofRecords records = .ok inventory)
include hrecords

/-- Workloads of an inventory have UUIDs. -/
theorem valid_of_workload {workload : Workload} (h : workload ∈ inventory.workloads) :
    Uuid.isValid workload.id := by
  have hpasses : workload.check = .ok () := by
    rcases mem_workloads.1 h with ⟨app, happ, rfl⟩ | ⟨vnf, hvnf, rfl⟩
    · exact Table.apps.check_of_mem hrecords happ
    · exact Table.vnfs.check_of_mem hrecords hvnf
  exact Workload.valid_of_check hpasses

/-- Workloads of an inventory with the same ID are the same, unless one is an application and the
other a network function. -/
theorem workload_of_id {workload other : Workload} (h : workload ∈ inventory.workloads)
    (hother : other ∈ inventory.workloads) (hid : workload.id = other.id)
    (hfamilies : ∀ app ∈ inventory.apps, ∀ vnf ∈ inventory.vnfs, app.id ≠ vnf.id) :
    workload = other := by
  rcases mem_workloads.1 h with ⟨app, happ, rfl⟩ | ⟨vnf, hvnf, rfl⟩
  · rcases mem_workloads.1 hother with ⟨second, hsecond, rfl⟩ | ⟨vnf, hvnf, rfl⟩
    · exact congrArg Workload.app (Table.apps.eq_of_id hrecords happ hsecond hid)
    · exact absurd hid (hfamilies app happ vnf hvnf)
  · rcases mem_workloads.1 hother with ⟨app, happ, rfl⟩ | ⟨second, hsecond, rfl⟩
    · exact absurd hid.symm (hfamilies app happ vnf hvnf)
    · exact congrArg Workload.vnf (Table.vnfs.eq_of_id hrecords hvnf hsecond hid)

/-- Two sites have the same name exactly if their workloads have the same ID and their nodes the
same serial number. -/
theorem named_iff {naming : String → String → String} (hnaming : naming ∈ namings)
    {site other : Site} (h : site ∈ inventory.sites) (hother : other ∈ inventory.sites) :
    site.named naming = other.named naming ↔
      site.workload.id = other.workload.id ∧ site.node.serial = other.node.serial :=
  naming_iff hnaming (valid_of_workload hrecords h.2) (valid_of_workload hrecords hother.2)

/-- Names tell the sites of an inventory apart exactly if serial numbers tell its nodes apart, and
IDs its applications from its network functions. -/
theorem named_inj_iff {naming : String → String → String} (hnaming : naming ∈ namings) :
    Set.InjOn (Site.named naming) inventory.sites ↔ inventory.Unshared := by
  constructor
  · intro hinj
    constructor
    · intro hworkloads node hnode other hother hserial
      obtain ⟨workload, hworkload⟩ := List.exists_mem_of_ne_nil _ hworkloads
      have hsame := @hinj ⟨node, workload⟩ ⟨hnode, hworkload⟩ ⟨other, workload⟩
        ⟨hother, hworkload⟩ (congrArg (naming workload.id) hserial)
      exact congrArg Site.node hsame
    · intro hnodes app happ vnf hvnf hid
      obtain ⟨node, hnode⟩ := List.exists_mem_of_ne_nil _ hnodes
      have happ : Workload.app app ∈ inventory.workloads :=
        mem_workloads.2 (.inl ⟨app, happ, rfl⟩)
      have hvnf : Workload.vnf vnf ∈ inventory.workloads :=
        mem_workloads.2 (.inr ⟨vnf, hvnf, rfl⟩)
      have hsame := @hinj ⟨node, .app app⟩ ⟨hnode, happ⟩ ⟨node, .vnf vnf⟩ ⟨hnode, hvnf⟩
        (congrArg (naming · node.serial) hid)
      cases congrArg Site.workload hsame
  · intro hunshared site hsite other hother hname
    obtain ⟨hid, hserial⟩ := (named_iff hrecords hnaming hsite hother).1 hname
    have hnode : site.node = other.node :=
      hunshared.serials (List.ne_nil_of_mem hsite.2) hsite.1 hother.1 hserial
    have hworkload : site.workload = other.workload :=
      workload_of_id hrecords hsite.2 hother.2 hid
        (hunshared.families (List.ne_nil_of_mem hsite.1))
    exact Site.ext hnode hworkload

/-- A node of an inventory is known to its directory. -/
theorem node_of_mem {node : Node} (h : node ∈ inventory.nodes) :
    inventory.directory.node node.id = .ok (some node) :=
  congrArg Except.ok (Table.nodes.find_of_mem hrecords h)

/-- The objects that a job for a site is about belong to this site. -/
theorem objects_of_job {placing : Placing} (hdirectory : placing.directory = inventory.directory)
    {site : Site} (hsite : site ∈ inventory.sites) {job : Job}
    (hjob : job.workloadId? = some site.workload.id) :
    job.objects placing site.node.id ⊆ site.objects := by
  have hknown : placing.directory.node site.node.id = .ok (some site.node) := by
    rw [hdirectory]
    exact node_of_mem hrecords hsite.1
  refine (Job.objects_subset placing site.node.id hjob).trans (Set.union_subset ?_ ?_)
  · rintro _ ⟨node, hnode, rfl⟩
    cases hknown.symm.trans hnode
    exact .inl rfl
  · rintro _ ⟨node, hnode, rfl⟩
    cases hknown.symm.trans hnode
    exact .inr rfl

end Inventory

/-- In the modes that use the cluster, names tell the sites of an inventory apart exactly if serial
numbers tell its nodes apart, and IDs its applications from its network functions. If so, nothing
that is asked for one site makes a call about an object of another one, whatever its calls are
answered with, and these objects are in the end what they were. -/
theorem sites_apart {records : List Record} {inventory : Inventory} {settings : Settings}
    {broker : Broker} {hasCluster : Bool} {controller : Controller}
    (hrecords : Inventory.ofRecords records = .ok inventory) (hmode : settings.mode.usesCluster)
    (hcontroller : Controller.ofSettings settings broker hasCluster = .ok controller)
    (hdirectory : broker.directory = inventory.directory) :
    (∀ naming ∈ namings, Set.InjOn (Site.named naming) inventory.sites ↔ inventory.Unshared) ∧
      (inventory.Unshared → ∀ site ∈ inventory.sites, ∀ other ∈ inventory.sites, site ≠ other →
        ∀ job : Job, job.workloadId? = some site.workload.id →
          (controller.perform site.node.id job).program.Touches (other.objects)ᶜ ∧
            ∀ script : Script, ∀ key ∈ other.objects,
              ((controller.perform site.node.id job).run Script.world script).2.store.AgreesAt
                script.store key) := by
  obtain ⟨route, hbackend⟩ := Controller.backend_of_cluster_mode hmode hcontroller
  refine ⟨fun naming hnaming => Inventory.named_inj_iff hrecords hnaming, ?_⟩
  intro hunshared site hsite other hother hne job hjob
  have hnames : ∀ naming ∈ namings, site.named naming ≠ other.named naming := by
    intro naming hnaming hname
    exact hne ((Inventory.named_inj_iff hrecords hnaming).2 hunshared hsite hother hname)
  have hown : (controller.perform site.node.id job).program.Touches site.objects :=
    (Controller.perform_touches hbackend site.node.id job).mono
      (Inventory.objects_of_job hrecords hdirectory hsite hjob)
  refine ⟨hown.mono fun key hkey => Site.objects_disjoint hnames hkey, ?_⟩
  intro script key hkey
  exact hown.agrees _ script fun hsame => Site.objects_disjoint hnames hsame hkey

namespace Sample

/-- An inventory of the two nodes and the application. -/
def inventory : Inventory :=
  ⟨[node, otherNode], [], [app], [], [], [], [], []⟩

/-- A node with the serial number of the first one. -/
def twin : Node :=
  { otherNode with serial := node.serial }

/-- An inventory of two nodes of one serial number and the application. -/
def twins : Inventory :=
  ⟨[node, twin], [], [app], [], [], [], [], []⟩

end Sample

open Sample in
/-- A stop on one of two nodes whose serial numbers begin alike leaves the deployment on the other
one running. -/
theorem sites_apart_two_nodes :
    let started := Sample.script (store 1) []
    let ended := (Sample.controller.perform otherNode.id (.action (.command ref .stop))).run
      Script.world started
    ended.2.store.deployment? (deploymentName ref.id node.serial) = some (deployment 1) := by
  intro started ended
  have hrecords : Inventory.ofRecords [.node node, .node otherNode, .app app] =
      .ok Sample.inventory := by
    decide +kernel
  have hserials : ∀ first ∈ [node, otherNode], ∀ second ∈ [node, otherNode],
      first.serial = second.serial → first = second := by
    decide
  have hunshared : Sample.inventory.Unshared :=
    ⟨fun _ first hfirst second hsecond => hserials first hfirst second hsecond,
      fun _ _ _ _ hvnf => nomatch hvnf⟩
  have hsite : ⟨otherNode, .app app⟩ ∈ Sample.inventory.sites :=
    ⟨List.mem_cons_of_mem _ (List.mem_singleton_self _), List.mem_singleton_self _⟩
  have hother : ⟨node, .app app⟩ ∈ Sample.inventory.sites :=
    ⟨List.mem_cons_self, List.mem_singleton_self _⟩
  obtain ⟨-, hapart⟩ := sites_apart hrecords rfl of_settings rfl
  have hstop := hapart hunshared _ hsite _ hother (by decide) (.action (.command ref .stop)) rfl
  exact (hstop.2 started _ (.inl rfl)).trans rfl

open Sample in
/-- An inventory takes two nodes of one serial number. A workload has the same names on both, and
stopping it on one of them stops it on the other. -/
theorem serial_shared :
    let site : Site := ⟨node, .app app⟩
    let other : Site := ⟨twin, .app app⟩
    let broker := Broker.ofSettings settings twins.directory library (some tls)
    let controller : Controller :=
      ⟨.kubernetesOvn, broker, (Controller.placing settings broker .networkPolicy).backend⟩
    let ended := (controller.perform twin.id (.action (.command ref .stop))).run Script.world
      (Sample.script (store 1) [])
    Inventory.ofRecords [.node node, .node twin, .app app] = .ok twins ∧
      Controller.ofSettings settings broker true = .ok controller ∧
      site ∈ twins.sites ∧ other ∈ twins.sites ∧ site ≠ other ∧
      (∀ naming ∈ namings, site.named naming = other.named naming) ∧
      ended.1 = .ok () ∧
      (ended.2.store.deployment? (site.named deploymentName)).map Deployment.replicas =
        some 0 := by
  refine ⟨by decide +kernel, rfl, ?_, ?_, by decide, fun _ _ => rfl, ?_, ?_⟩
  · exact ⟨List.mem_cons_self, List.mem_singleton_self _⟩
  · exact ⟨List.mem_cons_of_mem _ (List.mem_singleton_self _), List.mem_singleton_self _⟩
  · decide +kernel
  · decide +kernel

end EdgeFleet
