import EdgeFleet.Cluster.Naming
import EdgeFleet.Proofs.Uuid

/-!
# Names of cluster objects tell workloads and nodes apart

A name joins the ID of a workload and the serial number of a node with a hyphen, and both may hold
hyphens of their own. The parts can still be told apart, because no UUID is the beginning of
another one (`Uuid.prefix_free`).
-/

namespace EdgeFleet.Cluster

variable {a b s t : String}

/-- A UUID and a text behind a hyphen can be read off their join with a common head. -/
theorem join_injective (head : String) (ha : Uuid.isValid a) (hb : Uuid.isValid b)
    (h : head ++ a ++ "-" ++ s = head ++ b ++ "-" ++ t) : a = b ∧ s = t := by
  have hchars : a.toList ++ ("-".toList ++ s.toList) = b.toList ++ ("-".toList ++ t.toList) := by
    have hjoined := congrArg String.toList h
    simp only [String.toList_append, List.append_assoc] at hjoined
    exact List.append_cancel_left hjoined
  obtain ⟨hid, hrest⟩ := Uuid.prefix_free ha hb hchars
  exact ⟨hid, String.toList_inj.1 (List.append_cancel_left hrest)⟩

/-- Two deployments have the same name only if they belong to the same workload on nodes of the
same serial number. -/
theorem deployment_name_injective (ha : Uuid.isValid a) (hb : Uuid.isValid b)
    (h : deploymentName a s = deploymentName b t) : a = b ∧ s = t :=
  join_injective "deploy-" ha hb h

/-- So do two network policies. -/
theorem network_policy_name_injective (ha : Uuid.isValid a) (hb : Uuid.isValid b)
    (h : networkPolicyName a s = networkPolicyName b t) : a = b ∧ s = t :=
  join_injective "np-" ha hb h

/-- Pods carry the same label only if they belong to the same workload on nodes of the same serial
number. -/
theorem app_label_injective (ha : Uuid.isValid a) (hb : Uuid.isValid b)
    (h : appLabel a s = appLabel b t) : a = b ∧ s = t :=
  join_injective "app-" ha hb h

/-- The ways to name something after a workload and a serial number. -/
def namings : List (String → String → String) :=
  [deploymentName, containerName, appLabel, networkPolicyName]

/-- Every way to name something tells workloads and serial numbers apart. -/
theorem naming_iff {naming : String → String → String} (h : naming ∈ namings)
    (ha : Uuid.isValid a) (hb : Uuid.isValid b) : naming a s = naming b t ↔ a = b ∧ s = t := by
  refine ⟨fun hname => ?_, ?_⟩
  · simp only [namings, List.mem_cons, List.not_mem_nil, or_false] at h
    obtain rfl | rfl | rfl | rfl := h
    · exact deployment_name_injective ha hb hname
    · exact join_injective "pod-" ha hb hname
    · exact app_label_injective ha hb hname
    · exact network_policy_name_injective ha hb hname
  · rintro ⟨rfl, rfl⟩
    rfl

end EdgeFleet.Cluster
