import EdgeFleet.Proofs.Cluster.Spelling
import EdgeFleet.Proofs.Orchestration.Routing
import EdgeFleet.Proofs.Orchestration.Sites

/-!
# What the cluster is told that it may not take

Every name and every value of a label that the cluster is told is a UUID of the inventory, or joins
one and the serial number of a node behind a word of its own. `Request.texts` collects them with the
places that they stand in, and `names_legal_iff` says of which sites of an inventory each of them is
written as its place demands. An inventory asks of a serial number only that there is one, and takes
a UUID in any spelling: `name_illegal` is what becomes of capitals.
-/

namespace EdgeFleet

namespace Cluster

/-- A place in which a text stands that must be written by a rule. -/
inductive Slot where
  | deployment
  | policy
  | container
  | label (key : String)
  deriving DecidableEq

/-- The rule of a place. -/
def Slot.rule : Slot → Spelling
  | .deployment | .policy => .subdomain
  | .container => .domainLabel
  | .label _ => .labelValue

/-- The values of labels. -/
def labelTexts (labels : Option Labels) : List (Slot × String) :=
  (labels.getD []).map fun (key, value) => (.label key, value)

/-- The name and the labels of an object. -/
def Metadata.texts (slot : Slot) (metadata : Metadata) : List (Slot × String) :=
  metadata.name.toList.map (slot, ·) ++ labelTexts metadata.labels

/-- The names of the containers of pods, and the labels of the machines that they may run on. -/
def PodSpec.texts (pods : PodSpec) : List (Slot × String) :=
  pods.containers.map (.container, ·.name) ++ labelTexts pods.machineLabels

/-- The names and labels of a deployment. -/
def Deployment.texts (deployment : Deployment) : List (Slot × String) :=
  deployment.metadata.texts .deployment ++ deployment.spec.toList.flatMap fun spec =>
    labelTexts spec.selector.required ++ labelTexts (spec.template.metadata.bind (·.labels)) ++
      spec.template.spec.toList.flatMap PodSpec.texts

/-- The name and the labels of a network policy. -/
def NetworkPolicy.texts (policy : NetworkPolicy) : List (Slot × String) :=
  policy.metadata.texts .policy ++ policy.spec.toList.flatMap fun spec =>
    labelTexts spec.pods.required

/-- The names and the values of labels that a request tells the cluster. -/
def Request.texts : Request → List (Slot × String)
  | .countNodes nodeId => [(.label nodeLabel, nodeId)]
  | .createDeployment deployment | .applyDeployment deployment => deployment.texts
  | .getDeployment name | .scaleDeployment name _ | .deleteDeployment name => [(.deployment, name)]
  | .applyNetworkPolicy policy => policy.texts
  | .deleteNetworkPolicy name => [(.policy, name)]

end Cluster

open Cluster

namespace Site

variable {site : Site}

/-- What a site is called in a place. -/
def text (site : Site) : Slot → String
  | .deployment => site.named deploymentName
  | .policy => site.named networkPolicyName
  | .container => site.named containerName
  | .label key =>
    if key = podLabel then site.named appLabel
    else if key = workloadLabel then site.workload.id
    else site.node.id

/-- A site can have a name that joins the ID of its workload and its serial number: the ID is bare
and has no capitals, the serial number can end a name, and the two are not too long. -/
structure Joins (site : Site) (rule : Spelling) (most : Nat) : Prop where
  bare : Uuid.isBare site.workload.id
  lowered : Spelling.isLowered site.workload.id
  closes : rule.closes site.node.serial
  length_le : site.workload.id.length + site.node.serial.length ≤ most

/-- A site can have the value of a label that joins the two, for which capitals do not matter. -/
structure JoinsLabel (site : Site) (most : Nat) : Prop where
  bare : Uuid.isBare site.workload.id
  closes : Spelling.labelValue.closes site.node.serial
  length_le : site.workload.id.length + site.node.serial.length ≤ most

/-- Whether what a site is called can stand in a place. -/
def Fits (site : Site) : Slot → Prop
  | .deployment => site.Joins .subdomain 245
  | .policy => site.Joins .subdomain 249
  | .container => site.Joins .domainLabel 58
  | .label key =>
    if key = podLabel then site.JoinsLabel 58
    else if key = workloadLabel then Uuid.isBare site.workload.id
    else Uuid.isBare site.node.id

section Texts

variable (hid : Uuid.isValid site.workload.id) (hserial : site.node.serial ≠ "")
include hid hserial

/-- A name that joins the ID and the serial number behind a word is written as a rule says exactly
if the site can have it. -/
theorem accepts_name_iff (head : String) {rule : Spelling} {most : Nat}
    (hrule : rule = .subdomain ∨ rule = .domainLabel)
    (hhead : head.toList.all rule.inner && head.toList.head?.any rule.edge)
    (hmost : head.length + 1 + most = rule.limit) :
    rule.accepts (head ++ site.workload.id ++ "-" ++ site.node.serial) ↔ site.Joins rule most := by
  have hhyphen : rule.inner '-' := by
    rcases hrule with rfl | rfl <;> rfl
  rw [Spelling.accepts_join_iff most hhead hhyphen hmost hserial, Spelling.all_small_iff hid hrule]
  exact ⟨fun ⟨⟨hbare, hlowered⟩, hcloses, hlength⟩ => ⟨hbare, hlowered, hcloses, hlength⟩,
    fun ⟨hbare, hlowered, hcloses, hlength⟩ => ⟨⟨hbare, hlowered⟩, hcloses, hlength⟩⟩

/-- So is the value of a label. -/
theorem accepts_label_iff :
    Spelling.labelValue.accepts ("app-" ++ site.workload.id ++ "-" ++ site.node.serial) ↔
      site.JoinsLabel 58 := by
  rw [Spelling.accepts_join_iff 58 (by decide) (by decide) rfl hserial, Spelling.all_label_iff hid]
  exact ⟨fun ⟨hbare, hcloses, hlength⟩ => ⟨hbare, hcloses, hlength⟩,
    fun ⟨hbare, hcloses, hlength⟩ => ⟨hbare, hcloses, hlength⟩⟩

/-- What a site is called is written as its place demands exactly if it fits there. -/
theorem accepts_text_iff (hnode : Uuid.isValid site.node.id) (slot : Slot) :
    slot.rule.accepts (site.text slot) ↔ site.Fits slot := by
  cases slot with
  | deployment => exact accepts_name_iff hid hserial "deploy-" (.inl rfl) (by decide) rfl
  | policy => exact accepts_name_iff hid hserial "np-" (.inl rfl) (by decide) rfl
  | container => exact accepts_name_iff hid hserial "pod-" (.inr rfl) (by decide) rfl
  | label key =>
      simp only [text, Fits, Slot.rule]
      split
      · exact accepts_label_iff hid hserial
      · split
        · exact Spelling.label_accepts_iff hid
        · exact Spelling.label_accepts_iff hnode

end Texts

/-- Whether texts are what a site is called in their places. -/
def Names (site : Site) (texts : List (Slot × String)) : Prop :=
  ∀ entry ∈ texts, entry.2 = site.text entry.1

/-- All that a call tells the cluster is what a site is called. -/
def Told (site : Site) (call : Call) : Prop :=
  ∀ request, call = .cluster request → site.Names request.texts

/-- A call that is made elsewhere tells the cluster nothing. -/
theorem told_elsewhere {call : Call} (h : ∀ request, call ≠ .cluster request) : site.Told call :=
  fun request hcall => absurd hcall (h request)

/-- A request tells the texts that it has. -/
theorem told_request {request : Request} (h : site.Names request.texts) :
    site.Told (.cluster request) := by
  rintro _ ⟨⟩
  exact h

/-- A single text. -/
theorem names_single {slot : Slot} {text : String} (h : text = site.text slot) :
    site.Names [(slot, text)] := by
  intro entry hentry
  obtain rfl := List.mem_singleton.1 hentry
  exact h

section Build

variable {namespaceName pullPolicy : String} {workload : Workload} {count : Int}
  (hid : workload.id = site.workload.id)
include hid

/-- The labels of a deployment are what the site is called. -/
theorem names_labels : site.Names
    (labelTexts (some (Deployment.labels site.node.id site.node.serial workload.id))) := by
  rw [hid]
  simp only [Names, labelTexts, Deployment.labels, Option.getD_some, List.map_cons, List.map_nil,
    List.forall_mem_cons]
  exact ⟨rfl, rfl, rfl, nofun⟩

/-- A deployment that is built for the workload of a site is called what the site is. -/
theorem names_deployment {deployment : Deployment}
    (h : Deployment.ofWorkload namespaceName pullPolicy site.node.id site.node.serial workload
      count = .ok deployment) : site.Names deployment.texts := by
  obtain ⟨-, ports, -, rfl⟩ := Deployment.of_workload_iff.1 h
  have hlabels := names_labels hid
  have hname : deploymentName workload.id site.node.serial = site.text .deployment := hid ▸ rfl
  have hcontainer : containerName workload.id site.node.serial = site.text .container := hid ▸ rfl
  simp only [Names, Deployment.texts, Metadata.texts, PodSpec.texts, Option.toList_some,
    Option.bind_some, List.map_cons, List.map_nil, List.flatMap_cons, List.flatMap_nil,
    List.append_nil, List.forall_mem_append, List.forall_mem_singleton]
  exact ⟨⟨hname, hlabels⟩, ⟨hlabels, hlabels⟩, hcontainer, names_single rfl⟩

end Build

/-- So is a network policy that is built for its policy. -/
theorem names_policy {placing : Placing} {id : String} {payload : PolicyPayload}
    {object : NetworkPolicy} (hid : id = site.workload.id)
    (h : placing.policyFor id site.node.serial payload = .ok object) :
    site.Names object.texts := by
  cases payload with
  | native policy => cases h
  | cluster policy =>
      obtain ⟨-, hmetadata, spec, hspec, hpods, -⟩ := NetworkPolicy.of_policy_spec h
      rw [hid, Object.merged_single] at hmetadata hpods
      simp only [Names, NetworkPolicy.texts, Metadata.texts, hmetadata, hspec, hpods, labelTexts,
        Option.toList_some, Option.getD_some, List.map_cons, List.map_nil, List.flatMap_cons,
        List.flatMap_nil, List.append_nil, List.forall_mem_append, List.forall_mem_singleton]
      exact ⟨⟨rfl, rfl⟩, rfl⟩

/-- What a backend in the cluster is told for a job on the workload of a site. -/
theorem told_of_makes {placing : Placing} {job : Job} {call : Call}
    (hnode : placing.directory.node site.node.id = .ok (some site.node))
    (hjob : job.workloadId? = some site.workload.id)
    (h : placing.Makes site.node.id job call) : site.Told call := by
  have hsame {serial : String} (hserial : placing.serial site.node.id = .ok serial) :
      serial = site.node.serial :=
    Except.ok.inj (hserial.symm.trans (Placing.serial_eq hnode))
  -- By induction, since a policy that is cleared is deleted like any other.
  induction h with
  | count workload => exact told_request (names_single rfl)
  | create hbuilds | apply hbuilds =>
      obtain ⟨serial, hserial, hbuild⟩ := hbuilds
      obtain rfl := hsame hserial
      exact told_request (names_deployment (Option.some.inj hjob) hbuild)
  | fetchToRedeploy hserial | fetchToCommand hserial | fetchStatus hserial | scale hserial _
  | delete hserial =>
      obtain rfl := hsame hserial
      exact told_request (names_single
        (congrArg (deploymentName · site.node.serial) (Option.some.inj hjob)))
  | deletePolicy _ hserial =>
      obtain rfl := hsame hserial
      exact told_request (names_single
        (congrArg (networkPolicyName · site.node.serial) (Option.some.inj hjob)))
  | applyPolicy _ hserial hobject =>
      obtain rfl := hsame hserial
      exact told_request (names_policy (Option.some.inj hjob) hobject)
  | clear _ ih => exact ih hjob
  | setOnNode _ hmakes | deleteOnNode _ hmakes =>
      obtain ⟨request, -, hcall⟩ := hmakes
      exact told_elsewhere (by cases hcall <;> simp)

/-- What a controller tells nodes itself is not told to the cluster. -/
theorem told_of_tells {controller : Controller} {nodeId : String} {job : Job} {call : Call}
    (h : controller.Tells nodeId job call) : site.Told call := by
  cases h with
  | register _ | connect _ => exact told_elsewhere (by simp)
  | tell _ hcall => exact told_elsewhere (by cases hcall <;> simp)

/-- A site fits in all places exactly if it can have the name of a container, for which the rule is
strictest, and the ID of the node is bare. -/
theorem fits_iff :
    (∀ slot, site.Fits slot) ↔ site.Joins .domainLabel 58 ∧ Uuid.isBare site.node.id := by
  have hdistinct : nodeLabel ≠ podLabel ∧ nodeLabel ≠ workloadLabel := by decide
  constructor
  · intro hfits
    have hnode := hfits (.label nodeLabel)
    rw [Fits, if_neg hdistinct.1, if_neg hdistinct.2] at hnode
    exact ⟨hfits .container, hnode⟩
  · rintro ⟨⟨hbare, hlowered, hcloses, hlength⟩, hnode⟩ slot
    have hwider := Spelling.closes_of_domain hcloses
    cases slot with
    | deployment => exact ⟨hbare, hlowered, hwider.1, by omega⟩
    | policy => exact ⟨hbare, hlowered, hwider.1, by omega⟩
    | container => exact ⟨hbare, hlowered, hcloses, hlength⟩
    | label key =>
        simp only [Fits]
        split
        · exact ⟨hbare, hwider.2, hlength⟩
        · split
          · exact hbare
          · exact hnode

end Site

/-- A node that passes its check has a UUID and a serial number. -/
theorem Node.named_of_check {node : Node} (h : node.check = .ok ()) :
    Uuid.isValid node.id ∧ node.serial ≠ "" := by
  obtain ⟨⟨⟩, hid, h⟩ := bind_ok h
  obtain ⟨⟨⟩, -, h⟩ := bind_ok h
  obtain ⟨⟨⟩, -, hserial⟩ := bind_ok h
  exact ⟨Check.require_passes.1 hid, by simpa using Check.require_passes.1 hserial⟩

/-- In the modes that use the cluster, every name and every value of a label that the cluster is
told for a workload of an inventory on one of its nodes, whatever the calls are answered with, is
written as its place demands exactly if the site fits there. It fits in all places exactly if the ID
of the workload is bare and has no capitals, that of the node is bare, and the serial number has
only small letters, digits and hyphens, does not end in a hyphen, and leaves room for the ID. -/
theorem names_legal_iff {records : List Record} {inventory : Inventory} {settings : Settings}
    {broker : Broker} {hasCluster : Bool} {controller : Controller}
    (hrecords : Inventory.ofRecords records = .ok inventory) (hmode : settings.mode.usesCluster)
    (hcontroller : Controller.ofSettings settings broker hasCluster = .ok controller)
    (hdirectory : broker.directory = inventory.directory) {site : Site}
    (hsite : site ∈ inventory.sites) :
    (∀ job : Job, job.workloadId? = some site.workload.id →
      (controller.perform site.node.id job).program.Only fun call =>
        ∀ request, call = .cluster request → ∀ entry ∈ request.texts,
          (entry.1.rule.accepts entry.2 ↔ site.Fits entry.1)) ∧
      ((∀ slot, site.Fits slot) ↔ site.Joins .domainLabel 58 ∧ Uuid.isBare site.node.id) := by
  obtain ⟨route, hbackend⟩ := Controller.backend_of_cluster_mode hmode hcontroller
  have hpasses := Inventory.Table.nodes.check_of_mem hrecords hsite.1
  obtain ⟨hnode, hserial⟩ := Node.named_of_check hpasses
  have hid := Inventory.valid_of_workload hrecords hsite.2
  have hknown : (Controller.placing settings broker route).directory.node site.node.id =
      .ok (some site.node) := by
    show broker.directory.node site.node.id = _
    rw [hdirectory]
    exact Inventory.node_of_mem hrecords hsite.1
  refine ⟨fun job hjob => ?_, Site.fits_iff⟩
  have hmakes := hbackend ▸ (Controller.placing settings broker route).backend_only site.node.id
  have hbackend : controller.backend.Only site.node.id fun job call =>
      job.workloadId? = some site.workload.id → site.Told call :=
    hmakes.mono fun _ _ h hjob => Site.told_of_makes hknown hjob h
  have hperform := controller.perform_only hbackend (fun h _ => Site.told_of_tells h) job
  refine hperform.mono fun call htold request hrequest entry hentry => ?_
  rw [htold hjob request hrequest entry hentry]
  exact Site.accepts_text_iff hid hserial hnode entry.1

namespace Sample

/-- A node with a serial number without capitals. -/
def plainNode : Node :=
  { node with serial := "abc123" }

/-- An inventory of this node and the application. -/
def plain : Inventory :=
  ⟨[plainNode], [], [app], [], [], [], [], []⟩

end Sample

open Sample in
/-- A site without capitals is always told to the cluster by legal names. -/
theorem names_legal_plain :
    let broker := Broker.ofSettings settings plain.directory library (some tls)
    let controller : Controller :=
      ⟨.kubernetesOvn, broker, (Controller.placing settings broker .networkPolicy).backend⟩
    (controller.perform plainNode.id (.action (.deploy (.app app)))).program.Only fun call =>
      ∀ request, call = .cluster request → ∀ entry ∈ request.texts,
        entry.1.rule.accepts entry.2 := by
  intro broker controller
  have hrecords : Inventory.ofRecords [.node plainNode, .app app] = .ok plain := by decide +kernel
  have hcontroller : Controller.ofSettings settings broker true = .ok controller := rfl
  have hsite : ⟨plainNode, .app app⟩ ∈ plain.sites :=
    ⟨List.mem_singleton_self _, List.mem_singleton_self _⟩
  obtain ⟨hlegal, hfits⟩ := names_legal_iff hrecords rfl hcontroller rfl hsite
  have hjoins : Site.Joins ⟨plainNode, .app app⟩ .domainLabel 58 :=
    ⟨by decide +kernel, by decide +kernel, by decide +kernel, by decide +kernel⟩
  have hbare : Uuid.isBare plainNode.id := by decide +kernel
  refine (hlegal (.action (.deploy (.app app))) rfl).mono fun call hcall => ?_
  intro request hrequest entry hentry
  exact (hcall request hrequest entry hentry).2 (hfits.2 ⟨hjoins, hbare⟩ entry.1)

open Sample in
/-- A serial number with capitals is taken into an inventory, and the deployment of an application
is created under a name that is none. -/
theorem name_illegal :
    let site : Site := ⟨node, .app app⟩
    let deployed := controller.journal Script.world [(node.id, .action (.deploy site.workload))]
      (Sample.script Sample.bare [])
    Inventory.ofRecords [.node node, .node otherNode, .app app] = .ok Sample.inventory ∧
      site ∈ Sample.inventory.sites ∧
      deployed.map (fun entry => (entry.result.toOption, entry.calls)) =
        [(some (), [.cluster (.countNodes node.id),
          .cluster (.createDeployment (deployment 0))])] ∧
      (.deployment, site.named deploymentName) ∈ (deployment 0).texts ∧
      ¬ Spelling.subdomain.accepts (site.named deploymentName) := by
  refine ⟨by decide +kernel, ⟨List.mem_cons_self, List.mem_singleton_self _⟩, by decide +kernel,
    by decide +kernel, by decide +kernel⟩

end EdgeFleet
