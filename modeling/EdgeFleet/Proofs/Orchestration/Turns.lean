import EdgeFleet.Proofs.Orchestration.Script

/-!
# Operations that take turns

Several operations at a time in one world, which make their calls in any order. A turn is the next
call of one of the operations, and `Operation.Ends` says how all of them end after given turns.
`Ends.performed` is the single step that proofs about interleavings go by: a turn of an operation
that ends well is a call that the cluster carried out. A single operation that takes all turns does
what it does in a run (`Ends.run_alone`).
-/

namespace EdgeFleet

namespace Operation

variable {σ α : Type} (world : World σ)

/-- The operations and the state after the next call of the `k`-th operation, which must have one
to make. -/
def turn (k : Nat) (operations : List (Operation α)) (state : σ) :
    Option (List (Operation α) × σ) :=
  match operations[k]? with
  | some ⟨name, .call made next⟩ =>
    let (program, after) := Program.advance world name made next state
    some (operations.set k ⟨name, program⟩, after)
  | _ => none

/-- The results of operations none of which has a call to make. -/
def results? : List (Operation α) → Option (List (Except Error α))
  | [] => some []
  | ⟨_, .done result⟩ :: rest => (results? rest).map (result :: ·)
  | ⟨_, .call _ _⟩ :: _ => none

/-- The results of operations and the last state after some turns, which must leave none of them a
call to make. -/
def play : List Nat → List (Operation α) → σ → Option (List (Except Error α) × σ)
  | [], operations, state => (results? operations).map (·, state)
  | k :: turns, operations, state =>
    (turn world k operations state).bind fun (next, after) => play turns next after

/-- Operations that take turns end in results and leave a last state. -/
def Ends (turns : List Nat) (operations : List (Operation α)) (state : σ)
    (results : List (Except Error α)) (last : σ) : Prop :=
  play world turns operations state = some (results, last)

/-- Carries operations out one after another, and gives their results. -/
def runAll : List (Operation α) → σ → List (Except Error α) × σ
  | [], state => ([], state)
  | operation :: rest, state =>
    let (result, next) := operation.run world state
    let (results, last) := runAll rest next
    (result :: results, last)

/-- Operations have results if none has a call to make. -/
theorem results_eq {operations : List (Operation α)} {results : List (Except Error α)}
    (h : results? operations = some results) :
    operations.map program = results.map Program.done := by
  induction operations generalizing results with
  | nil =>
      obtain rfl := Option.some.inj h
      rfl
  | cons operation rest ih =>
      match operation with
      | ⟨_, .done result⟩ =>
          obtain ⟨others, hothers, rfl⟩ := Option.map_eq_some_iff.1 h
          simp [ih hothers]
      | ⟨_, .call _ _⟩ => cases h

namespace Ends

variable {world} {operations : List (Operation α)} {state last : σ} {turns : List Nat}
  {results : List (Except Error α)} {k : Nat} {name : String}

/-- Without a turn nothing happens. -/
theorem idle (h : Ends world [] operations state results last) :
    operations.map program = results.map Program.done ∧ state = last := by
  obtain ⟨found, hfound, hpair⟩ := Option.map_eq_some_iff.1 h
  obtain ⟨rfl, rfl⟩ := Prod.mk.inj hpair
  exact ⟨results_eq hfound, rfl⟩

/-- Without a turn to come, every operation is done and has its result. -/
theorem done_at {operation : Operation α} (hk : operations[k]? = some operation)
    (h : Ends world [] operations state results last) :
    ∃ result, operation.program = .done result ∧ results[k]? = some result := by
  have hprogram := congrArg (·[k]?) h.idle.1
  simp only [List.getElem?_map, hk, Option.map_some] at hprogram
  cases hresult : results[k]? with
  | none => simp [hresult] at hprogram
  | some result => exact ⟨result, by simpa [hresult] using hprogram, rfl⟩

/-- A turn is the next call of the operation that has it. -/
theorem step (h : Ends world (k :: turns) operations state results last) :
    ∃ name made next, operations[k]? = some ⟨name, .call made next⟩ ∧
      Ends world turns
        (operations.set k ⟨name, (Program.advance world name made next state).1⟩)
        (Program.advance world name made next state).2 results last := by
  obtain ⟨⟨operations', state'⟩, hturn, hrest⟩ := Option.bind_eq_some_iff.1 h
  unfold turn at hturn
  split at hturn
  · next name made next hk =>
      obtain ⟨rfl, rfl⟩ := Prod.mk.inj (Option.some.inj hturn)
      exact ⟨name, made, next, hk, hrest⟩
  · cases hturn

/-- An operation that is done makes no call any more and keeps its result. -/
theorem result {result : Except Error α} (hk : operations[k]? = some ⟨name, .done result⟩)
    (h : Ends world turns operations state results last) : results[k]? = some result := by
  induction turns generalizing operations state with
  | nil =>
      obtain ⟨_, hdone, hresult⟩ := h.done_at hk
      obtain rfl := Program.done.inj hdone
      exact hresult
  | cons j turns ih =>
      obtain ⟨other, made, next, hj, hrest⟩ := h.step
      have hne : j ≠ k := by
        rintro rfl
        cases hk.symm.trans hj
      exact ih (by rwa [List.getElem?_set_ne hne]) hrest

/-- What every turn keeps to be true of the operations and the state is true in the end, when all
operations are done. -/
theorem keeps (holds : List (Operation α) → σ → Prop)
    (hkeeps : ∀ {k operations state name made next},
      operations[k]? = some ⟨name, .call made next⟩ → holds operations state →
        holds (operations.set k ⟨name, (Program.advance world name made next state).1⟩)
          (Program.advance world name made next state).2)
    (hstart : holds operations state) (h : Ends world turns operations state results last) :
    ∃ settled, settled.map program = results.map Program.done ∧ holds settled last := by
  induction turns generalizing operations state with
  | nil =>
      obtain ⟨hdone, rfl⟩ := h.idle
      exact ⟨operations, hdone, hstart⟩
  | cons k turns ih =>
      obtain ⟨name, made, next, hk, hrest⟩ := h.step
      exact ih (hkeeps hk hstart) hrest

/-- Of two operations none has a call to make, or the next turn is the first one's or the second
one's. -/
theorem pair_cases {first second : Operation α}
    (h : Ends world turns [first, second] state results last) :
    (turns = [] ∧ [first.program, second.program] = results.map Program.done ∧ state = last) ∨
      (∃ rest made next, turns = 0 :: rest ∧ first.program = .call made next) ∨
      (∃ rest made next, turns = 1 :: rest ∧ second.program = .call made next) := by
  cases turns with
  | nil => exact .inl ⟨rfl, h.idle⟩
  | cons k rest =>
      obtain ⟨name, made, next, hk, -⟩ := h.step
      match k with
      | 0 =>
          obtain rfl : first = ⟨name, .call made next⟩ := Option.some.inj hk
          exact .inr (.inl ⟨rest, made, next, rfl, rfl⟩)
      | 1 =>
          obtain rfl : second = ⟨name, .call made next⟩ := Option.some.inj hk
          exact .inr (.inr ⟨rest, made, next, rfl, rfl⟩)
      | k + 2 => simp at hk

/-- An operation that takes all turns runs. -/
theorem run_alone {operation : Operation α} {result : Except Error α}
    (h : Ends world turns [operation] state [result] last) :
    operation.run world state = (result, last) := by
  induction turns generalizing operation state with
  | nil =>
      obtain ⟨hprogram, rfl⟩ := h.idle
      have hdone : operation.program = .done result := (List.cons.inj hprogram).1
      rw [run, hdone]
      rfl
  | cons k turns ih =>
      obtain ⟨name, made, next, hk, hrest⟩ := h.step
      match k with
      | 0 =>
          obtain rfl : operation = ⟨name, .call made next⟩ := Option.some.inj hk
          rw [run, Program.run_call]
          exact ih hrest
      | k + 1 => simp at hk

end Ends

variable {world}

/-- Two operations and their places, which are all that there are. -/
structure Pair (operations : List (Operation α)) (i j : Nat) (mine theirs : Operation α) :
    Prop where
  mine : operations[i]? = some mine
  theirs : operations[j]? = some theirs
  only : ∀ k < operations.length, k = i ∨ k = j
  ne : i ≠ j

namespace Pair

variable {operations : List (Operation α)} {i j k : Nat} {mine theirs : Operation α}

/-- Two operations stand at the first two places. -/
theorem of_list (first second : Operation α) : Pair [first, second] 0 1 first second where
  mine := rfl
  theirs := rfl
  only k hk := by
    have hlt : k < 2 := hk
    omega
  ne := Nat.zero_ne_one

/-- Either of the two may be called mine. -/
theorem symm (h : Pair operations i j mine theirs) : Pair operations j i theirs mine :=
  ⟨h.theirs, h.mine, fun k hk => (h.only k hk).symm, h.ne.symm⟩

/-- What one of the two becomes leaves the other as it is. -/
theorem set (h : Pair operations i j mine theirs) (operation : Operation α) :
    Pair (operations.set i operation) i j operation theirs where
  mine := by simp [(List.getElem?_eq_some_iff.1 h.mine).1]
  theirs := by rw [List.getElem?_set_ne h.ne, h.theirs]
  only k hk := h.only k (by simpa using hk)
  ne := h.ne

variable {state last : σ} {turns : List Nat} {results : List (Except Error α)}
  (hpair : Pair operations i j mine theirs)
include hpair

/-- Every turn is one of the two's. -/
theorem turn (h : Ends world (k :: turns) operations state results last) : k = i ∨ k = j := by
  obtain ⟨_, _, _, hk, -⟩ := h.step
  exact hpair.only k (List.getElem?_eq_some_iff.1 hk).1

/-- My turn is the next call of mine. -/
theorem step {name : String} {made : Call} {next : Except made.Failure made.Answer → Program α}
    (hmine : mine = ⟨name, .call made next⟩)
    (h : Ends world (i :: turns) operations state results last) :
    Ends world turns (operations.set i ⟨name, (Program.advance world name made next state).1⟩)
      (Program.advance world name made next state).2 results last := by
  subst hmine
  obtain ⟨_, _, _, hk, hrest⟩ := h.step
  obtain ⟨rfl, hcall⟩ := Operation.mk.inj (Option.some.inj (hpair.mine.symm.trans hk))
  obtain ⟨rfl, hnext⟩ := Program.call.inj hcall
  obtain rfl := eq_of_heq hnext
  exact hrest

/-- What is done takes no turn. -/
theorem not_done {name : String} {result : Except Error α} (hmine : mine = ⟨name, .done result⟩) :
    ¬ Ends world (i :: turns) operations state results last := by
  subst hmine
  intro h
  obtain ⟨_, _, _, hk, -⟩ := h.step
  cases hpair.mine.symm.trans hk

/-- Without turns to come, what is mine is done. -/
theorem idle (h : Ends world [] operations state results last) :
    ∃ result, mine.program = .done result := by
  obtain ⟨result, hdone, -⟩ := h.done_at hpair.mine
  exact ⟨result, hdone⟩

end Pair

section Cluster

variable {operations : List (Operation α)} {script last : Script} {turns : List Nat}
  {results : List (Except Error α)} {k : Nat} {name : String} {request : Cluster.Request}
  {next : (Call.cluster request).Answer → Program α}

/-- A turn of an operation that ends well is carried out by the store. -/
theorem Ends.performed {value : α} (hrequest : ∀ nodeId, request ≠ .countNodes nodeId)
    (hk : operations[k]? = some ⟨name, .proceed (.cluster request) next⟩)
    (hok : results[k]? = some (.ok value))
    (h : Ends Script.world (k :: turns) operations script results last) :
    ∃ answer store, script.store.perform request = (.ok answer, store) ∧
      Ends Script.world turns (operations.set k ⟨name, next answer⟩) (script.noted request store)
        results last := by
  obtain ⟨other, made, rest, hmade, hrest⟩ := h.step
  obtain ⟨rfl, hcall⟩ := Operation.mk.inj (Option.some.inj (hk.symm.trans hmade))
  obtain ⟨rfl, hnext⟩ := Program.call.inj hcall
  obtain rfl := eq_of_heq hnext
  have hlt : k < operations.length := (List.getElem?_eq_some_iff.1 hk).1
  have hset : ∀ operation, (operations.set k operation)[k]? = some operation := by
    intro operation
    simp [hlt]
  -- A fault, or a request that the store refuses, would be the result of the operation.
  cases hfault : (script.reply 0).isFault with
  | true =>
      rw [ClusterReply.is_fault_eq name] at hfault
      obtain ⟨error, herror⟩ := Option.isSome_iff_exists.1 hfault
      rw [Script.advance_fault herror] at hrest
      cases (hrest.result (hset _)).symm.trans hok
  | false =>
      rw [Script.advance_performed (ClusterReply.performs_of_fault hfault hrequest)] at hrest
      cases hperform : script.store.perform request with
      | mk outcome store =>
          cases outcome with
          | ok answer =>
              rw [hperform] at hrest
              exact ⟨answer, store, rfl, hrest⟩
          | error error =>
              rw [hperform] at hrest
              cases (hrest.result (hset _)).symm.trans hok

end Cluster

end Operation

end EdgeFleet
