import EdgeFleet.Cluster.Store

/-!
# What a cluster keeps

Looking objects up after one was put in or taken out. Read `lookup_put` and `lookup_without` first:
both leave every other name alone. The lemmas on deployments and on network policies say the same
of a cluster, and that neither kind of object touches the other.
-/

namespace EdgeFleet.Cluster

namespace Store

variable {α : Type}

/-- Taking an object out makes its name, and no other, unused. -/
theorem lookup_without (name other : String) (objects : List (String × α)) :
    lookup other (without name objects) = if other = name then none else lookup other objects := by
  by_cases h : other = name
  · subst h
    simp [lookup, without]
  · have hkept : ∀ object : String × α,
        (object.1 != name && object.1 == other) = (object.1 == other) := by
      intro object
      by_cases hobject : object.1 = other <;> simp [hobject, h]
    simp only [lookup, without, List.find?_filter, Bool.decide_and, Bool.decide_eq_true, hkept,
      h, if_false]

/-- Putting an object in gives it its name and leaves every other name alone. -/
theorem lookup_put (name other : String) (object : α) (objects : List (String × α)) :
    lookup other (put name object objects) =
      if other = name then some object else lookup other objects := by
  by_cases h : other = name
  · subst h
    simp [lookup, put]
  -- `put` takes the name out first, which `lookup_without` says another name does not see.
  · have hne : ¬ name = other := fun heq => h heq.symm
    have hrest := lookup_without name other objects
    simp only [h, if_false] at hrest ⊢
    rw [← hrest]
    simp [lookup, put, hne]

variable (store : Store) (name other : String)

/-- A deployment put in is found under its name, and every other one is as before. -/
@[simp] theorem deployment_put_deployment (deployment : Deployment) :
    (store.putDeployment name deployment).deployment? other =
      if other = name then some deployment else store.deployment? other :=
  lookup_put name other deployment store.deployments

/-- Putting a deployment in leaves all network policies alone. -/
@[simp] theorem policy_put_deployment (deployment : Deployment) :
    (store.putDeployment name deployment).policy? other = store.policy? other := rfl

/-- Putting a deployment in does not change the machines that there are. -/
@[simp] theorem machines_put_deployment (deployment : Deployment) :
    (store.putDeployment name deployment).machines = store.machines := rfl

/-- The cluster without the deployment of a name. -/
def dropDeployment : Store :=
  { store with deployments := without name store.deployments }

/-- The cluster without the network policy of a name. -/
def dropPolicy : Store :=
  { store with policies := without name store.policies }

@[simp] theorem deployment_drop_deployment :
    (store.dropDeployment name).deployment? other =
      if other = name then none else store.deployment? other :=
  lookup_without name other store.deployments

@[simp] theorem policy_drop_deployment :
    (store.dropDeployment name).policy? other = store.policy? other := rfl

@[simp] theorem machines_drop_deployment :
    (store.dropDeployment name).machines = store.machines := rfl

@[simp] theorem deployment_drop_policy :
    (store.dropPolicy name).deployment? other = store.deployment? other := rfl

@[simp] theorem policy_drop_policy :
    (store.dropPolicy name).policy? other = if other = name then none else store.policy? other :=
  lookup_without name other store.policies

@[simp] theorem machines_drop_policy : (store.dropPolicy name).machines = store.machines := rfl

/-- A network policy put in is found under its name, and every other one is as before. -/
@[simp] theorem policy_put_policy (policy : NetworkPolicy) :
    (store.putPolicy name policy).policy? other =
      if other = name then some policy else store.policy? other :=
  lookup_put name other policy store.policies

variable {store name}

@[simp] theorem perform_count_nodes (nodeId : String) :
    store.perform (.countNodes nodeId) = (.ok (store.machines nodeId), store) := rfl

@[simp] theorem perform_get_deployment :
    store.perform (.getDeployment name) = (.ok (store.deployment? name), store) := rfl

@[simp] theorem perform_apply_deployment (deployment : Deployment) :
    store.perform (.applyDeployment deployment) =
      (.ok (), store.putDeployment (nameOf deployment.metadata) deployment) := rfl

@[simp] theorem perform_delete_deployment :
    store.perform (.deleteDeployment name) =
      (.ok (store.deployment? name).isSome, store.dropDeployment name) := rfl

@[simp] theorem perform_apply_policy (policy : NetworkPolicy) :
    store.perform (.applyNetworkPolicy policy) =
      (.ok (), store.putPolicy (nameOf policy.metadata) policy) := rfl

@[simp] theorem perform_delete_policy :
    store.perform (.deleteNetworkPolicy name) =
      (.ok (store.policy? name).isSome, store.dropPolicy name) := rfl

/-- A deployment is created under a name that is free. -/
theorem perform_create_free {deployment : Deployment}
    (h : store.deployment? (nameOf deployment.metadata) = none) :
    store.perform (.createDeployment deployment) =
      (.ok (), store.putDeployment (nameOf deployment.metadata) deployment) := by
  simp only [perform, h]

/-- Creating a deployment under a name that is taken is refused. -/
theorem perform_create_taken {deployment present : Deployment}
    (h : store.deployment? (nameOf deployment.metadata) = some present) :
    store.perform (.createDeployment deployment) =
      (.error (.failedPrecondition (.deploymentExists (nameOf deployment.metadata))), store) := by
  simp only [perform, h]

/-- Scaling a deployment that exists replaces it by one with the number of copies asked for. -/
theorem perform_scale {deployment : Deployment} (h : store.deployment? name = some deployment)
    (count : Int) :
    store.perform (.scaleDeployment name count) =
      (.ok (), store.putDeployment name (deployment.scaled count)) := by
  simp only [perform, h]

variable (store) (request : Request)

/-- No request changes the machines that there are. -/
theorem machines_perform : (store.perform request).2.machines = store.machines := by
  cases request with
  | createDeployment deployment =>
      simp only [perform]
      split <;> rfl
  | scaleDeployment name replicas =>
      simp only [perform]
      split <;> rfl
  | _ => rfl

variable {request}

/-- A request that fails leaves the cluster as it was. -/
theorem perform_of_error {error : Error} (h : (store.perform request).1 = .error error) :
    (store.perform request).2 = store := by
  cases request with
  | createDeployment deployment =>
      simp only [perform] at h ⊢
      split
      · rfl
      · next hfree => simp [hfree] at h
  | scaleDeployment name replicas =>
      simp only [perform] at h ⊢
      split
      · next hfound => simp [hfound] at h
      · rfl
  | _ => cases h

end Store

namespace Deployment

variable (deployment : Deployment) (count : Int)

/-- A deployment that says what it is to be takes the number of copies it is scaled to. -/
theorem replicas_scaled (h : deployment.spec.isSome) :
    (deployment.scaled count).replicas? = some count := by
  obtain ⟨spec, hspec⟩ := Option.isSome_iff_exists.1 h
  simp [replicas?, scaled, hspec]

/-- A deployment that says how many copies there are to be says what it is to be. -/
theorem spec_of_replicas (h : deployment.replicas? = some count) : deployment.spec.isSome := by
  cases hspec : deployment.spec with
  | none => simp [replicas?, hspec] at h
  | some spec => rfl

/-- A deployment that asks for copies says what it is to be. -/
theorem spec_of_positive (h : deployment.replicas > 0) : deployment.spec.isSome := by
  cases hreplicas : deployment.replicas? with
  | none => simp [replicas, hreplicas] at h
  | some count => exact deployment.spec_of_replicas count hreplicas

/-- Scaling does not change whether a deployment says what it is to be. -/
@[simp] theorem spec_scaled : (deployment.scaled count).spec.isSome = deployment.spec.isSome := by
  simp [scaled]

variable {deployment}

/-- Scaled through several numbers of copies, a deployment asks for the last of them. -/
theorem replicas_scaled_all (h : deployment.spec.isSome) (counts : List Int) :
    (counts.foldl scaled deployment).replicas? = counts.getLast?.or deployment.replicas? := by
  induction counts generalizing deployment with
  | nil => rfl
  | cons count counts ih =>
      rw [List.foldl_cons, ih (by simpa using h), deployment.replicas_scaled count h,
        List.getLast?_cons]
      cases counts.getLast? <;> rfl

/-- The number of copies that this comes to. -/
theorem count_scaled_all (h : deployment.spec.isSome) (counts : List Int) :
    (counts.foldl scaled deployment).replicas = counts.getLast?.getD deployment.replicas := by
  rw [replicas, replicas_scaled_all h, replicas]
  cases counts.getLast? <;> rfl

/-- Only the last scaling matters. -/
@[simp] theorem scaled_scaled (count other : Int) :
    (deployment.scaled count).scaled other = deployment.scaled other := by
  simp [scaled, Function.comp_def]

/-- So it does not matter how often a deployment was scaled before. -/
theorem scaled_all_scaled (counts : List Int) (count : Int) :
    (counts.foldl scaled deployment).scaled count = deployment.scaled count := by
  induction counts generalizing deployment with
  | nil => rfl
  | cons first rest ih => rw [List.foldl_cons, ih, scaled_scaled]

/-- Several scalings come to the last of them. -/
theorem scaled_last {counts : List Int} {count : Int} (h : counts.getLast? = some count) :
    counts.foldl scaled deployment = deployment.scaled count := by
  obtain ⟨others, rfl⟩ := List.getLast?_eq_some_iff.1 h
  rw [List.foldl_append]
  exact scaled_all_scaled others count

/-- A deployment that does not say what it is to be stays as it is. -/
theorem scaled_all_none (h : deployment.spec = none) (counts : List Int) :
    counts.foldl scaled deployment = deployment := by
  induction counts with
  | nil => rfl
  | cons count rest ih =>
      have hscaled : deployment.scaled count = deployment := by
        obtain ⟨metadata, spec, status⟩ := deployment
        obtain rfl : spec = none := h
        rfl
      rw [List.foldl_cons, hscaled, ih]

/-- So it asks for no copy. -/
theorem replicas_scaled_none (h : deployment.spec = none) (counts : List Int) :
    (counts.foldl scaled deployment).replicas = 0 := by
  rw [scaled_all_none h]
  simp [replicas, replicas?, h]

/-- However a deployment is scaled, it says what it is to be or does not. -/
theorem spec_scaled_all (counts : List Int) :
    (counts.foldl scaled deployment).spec.isSome = deployment.spec.isSome := by
  induction counts generalizing deployment with
  | nil => rfl
  | cons count rest ih => rw [List.foldl_cons, ih, spec_scaled]

end Deployment

end EdgeFleet.Cluster
