import Mathlib.Data.List.DropRight
import Mathlib.Data.List.TakeDrop
import EdgeFleet.Proofs.Text.Number
import EdgeFleet.Uri.Endpoint

/-!
# Ports of addresses

The parts of an address as its text shows them to any reader: `authority?` is what stands between
the two slashes and whatever ends an authority, and `port?` the port in it, which agrees with the
grammar of authorities (`Divides.port_of`). An address that was read from a text is written with
the authority at the head of this text (`Endpoint.authority_render`).
-/

namespace EdgeFleet.Uri

open Text

/-! ### Authorities -/

/-- Whether a character goes on with an authority. -/
def continuesAuthority (c : Char) : Bool :=
  !Endpoint.endsAuthority c

/-- The authority at the head of a text. -/
def authorityOf (cs : List Char) : List Char :=
  cs.takeWhile continuesAuthority

/-- The authority of an address: it stands behind the scheme and two slashes. -/
def authority? (text : String) : Option (List Char) :=
  match text.toList.dropWhile (· != ':') with
  | ':' :: '/' :: '/' :: rest => some (authorityOf rest)
  | _ => none

/-- The port of an authority: the numeral behind the last colon. -/
def portOf? (authority : List Char) : Option Nat :=
  if ':' ∈ authority then digits? 10 (authority.rtakeWhile (· != ':')) else none

/-- The port of an address, if one is written. -/
def port? (text : String) : Option Nat :=
  (authority? text).bind portOf?

/-- A text within which nothing ends an authority is an authority as a whole. -/
theorem authority_of_all {cs : List Char} (h : ∀ c ∈ cs, continuesAuthority c = true) :
    authorityOf cs = cs :=
  List.takeWhile_eq_self_iff.2 h

/-- Otherwise, what follows its end does not matter. -/
theorem authority_of_append {cs : List Char} (h : ¬ ∀ c ∈ cs, continuesAuthority c = true)
    (rest : List Char) : authorityOf (cs ++ rest) = authorityOf cs := by
  induction cs with
  | nil => exact absurd nofun h
  | cons c cs ih =>
      show List.takeWhile continuesAuthority (c :: (cs ++ rest)) =
        List.takeWhile continuesAuthority (c :: cs)
      cases hc : continuesAuthority c with
      | false => rw [List.takeWhile_cons_of_neg (by simp [hc]),
          List.takeWhile_cons_of_neg (by simp [hc])]
      | true =>
          have hcs : ¬ ∀ c ∈ cs, continuesAuthority c = true := fun hall =>
            h (List.forall_mem_cons.2 ⟨hc, hall⟩)
          rw [List.takeWhile_cons_of_pos hc, List.takeWhile_cons_of_pos hc]
          exact congrArg (c :: ·) (ih hcs)

/-- At the end of an authority nothing of it is left. -/
theorem authority_of_end {c : Char} (hc : continuesAuthority c = false) (rest : List Char) :
    authorityOf (c :: rest) = [] :=
  List.takeWhile_cons_of_neg (by simp [hc])

/-- An authority reaches up to what ends it. -/
theorem authority_of_ended {cs rest : List Char} (h : ∀ c ∈ cs, continuesAuthority c = true)
    (hrest : authorityOf rest = []) : authorityOf (cs ++ rest) = cs := by
  unfold authorityOf at *
  rw [List.takeWhile_append_of_pos h, hrest, List.append_nil]

/-- All of an authority goes on with it. -/
theorem authority_of_continues (cs : List Char) :
    ∀ c ∈ authorityOf cs, continuesAuthority c = true :=
  fun _ hc => List.mem_takeWhile_imp hc

/-! ### Ports -/

/-- The port is what stands behind a colon that no other one follows. -/
theorem port_of_append (cs : List Char) {last : List Char} (h : ':' ∉ last) :
    portOf? (cs ++ ':' :: last) = digits? 10 last := by
  unfold portOf?
  rw [if_pos (by simp)]
  have hlast : ∀ c ∈ last.reverse, (c != ':') = true := by
    intro c hc
    exact bne_iff_ne.2 fun hcolon => h (hcolon ▸ List.mem_reverse.1 hc)
  unfold List.rtakeWhile
  rw [List.reverse_append, List.reverse_cons, List.append_assoc, List.takeWhile_append_of_pos hlast,
    List.singleton_append, List.takeWhile_cons_of_neg (by decide), List.append_nil,
    List.reverse_reverse]

/-- Without a colon there is no port. -/
theorem port_of_no_colon {cs : List Char} (h : ':' ∉ cs) : portOf? cs = none :=
  if_neg h

/-- What stands behind the last colon and is no numeral is no port. -/
theorem port_of_not_digits (cs : List Char) {last : List Char} {c : Char} (hmem : c ∈ last)
    (hc : ¬ IsDigit 10 c) (h : ':' ∉ last) : portOf? (cs ++ ':' :: last) = none := by
  rw [port_of_append cs h]
  cases hdigits : digits? 10 last with
  | none => rfl
  | some value => exact absurd (digits_all hdigits c hmem) hc

/-- The last colon of a text that has one. -/
theorem split_last_colon {cs : List Char} (h : ':' ∈ cs) :
    ∃ before last, cs = before ++ ':' :: last ∧ ':' ∉ last := by
  induction cs with
  | nil => cases h
  | cons c cs ih =>
      by_cases hrest : ':' ∈ cs
      · obtain ⟨before, last, rfl, hlast⟩ := ih hrest
        exact ⟨c :: before, last, rfl, hlast⟩
      · have hc : ':' = c := (List.mem_cons.1 h).resolve_right hrest
        exact ⟨[], cs, by rw [hc]; rfl, hrest⟩

/-- Whether a text is a host: it is bracketed, or has no colon. -/
def IsHostText (host : List Char) : Prop :=
  ':' ∉ host ∨ ∃ inner, host = '[' :: inner ++ [']']

/-- The grammar of authorities: user information before an at sign, a host, and a port behind a
colon, which may be empty. -/
inductive Divides : List Char → Option Nat → Prop where
  | host {host : List Char} (h : IsHostText host) : Divides host none
  | noPort {host : List Char} (h : IsHostText host) : Divides (host ++ [':']) none
  | port {host digits : List Char} {port : Nat} (h : IsHostText host)
      (hport : digits? 10 digits = some port) : Divides (host ++ ':' :: digits) (some port)
  | user {user rest : List Char} {port : Option Nat} (h : Divides rest port) :
      Divides (user ++ '@' :: rest) port

/-- No digit is a mark. -/
theorem not_mem_of_digits {c : Char} (hc : ¬ IsDigit 10 c) {cs : List Char} {value : Nat}
    (h : digits? 10 cs = some value) : c ∉ cs :=
  fun hmem => hc (digits_all h c hmem)

/-- However an authority is divided by the grammar, its port is found. -/
theorem Divides.port_of {authority : List Char} {port : Option Nat} (h : Divides authority port) :
    portOf? authority = port := by
  induction h with
  | host hhost =>
      rename_i host
      by_cases hcolon : ':' ∈ host
      · -- The colons of a bracketed host are followed by the closing bracket.
        obtain ⟨inner, rfl⟩ := hhost.resolve_left (absurd hcolon)
        have hinner : ':' ∈ '[' :: inner := by simpa using hcolon
        obtain ⟨before, last, hsplit, hlast⟩ := split_last_colon hinner
        have hbracket : ':' ∉ last ++ [']'] := by simpa using hlast
        rw [hsplit, List.append_assoc, List.cons_append]
        exact port_of_not_digits before (c := ']') (by simp) (by decide) hbracket
      · exact port_of_no_colon hcolon
  | noPort hhost => exact port_of_append _ (by simp)
  | port hhost hport =>
      have hcolon := not_mem_of_digits (c := ':') (by decide) hport
      rw [port_of_append _ hcolon, hport]
  | user hrest ih =>
      rename_i user rest port
      rw [← ih]
      by_cases hcolon : ':' ∈ rest
      · obtain ⟨before, last, rfl, hlast⟩ := split_last_colon hcolon
        have hassoc : user ++ '@' :: (before ++ ':' :: last) =
            (user ++ '@' :: before) ++ ':' :: last := by simp
        rw [hassoc, port_of_append _ hlast, port_of_append _ hlast]
      · rw [port_of_no_colon hcolon]
        by_cases huser : ':' ∈ user
        · -- The colons of user information are followed by the at sign.
          obtain ⟨before, last, rfl, hlast⟩ := split_last_colon huser
          have hafter : ':' ∉ last ++ '@' :: rest := by simp [hlast, hcolon]
          rw [List.append_assoc, List.cons_append]
          exact port_of_not_digits before (c := '@') (by simp) (by decide) hafter
        · exact port_of_no_colon (by simp [huser, hcolon])

/-! ### Addresses that were read -/

namespace Endpoint

variable {scheme : Scheme} {text : String} {endpoint : Endpoint}

/-- An address is read in three parts. -/
theorem parse_parts (h : parse? scheme text = some endpoint) :
    endpoint.scheme = scheme ∧ endpoint.authority = .ofList (authorityOf text.toList) ∧
      Target.ofChars? (text.toList.dropWhile continuesAuthority) = some endpoint.target := by
  unfold parse? at h
  have hspan : text.toList.span (fun c => !endsAuthority c) =
      (authorityOf text.toList, text.toList.dropWhile continuesAuthority) :=
    List.span_eq_takeWhile_dropWhile _ _
  rw [hspan] at h
  obtain ⟨target, htarget, h⟩ := Option.bind_eq_some_iff.1 h
  split at h
  · obtain rfl := Option.some.inj h
    exact ⟨rfl, rfl, htarget⟩
  · cases h

/-- An address is written with its scheme first. -/
theorem render_starts (endpoint : Endpoint) :
    (endpoint.scheme.name ++ "://").toList <+: endpoint.render.toList := by
  simp only [render, String.toList_append, List.append_assoc]
  exact ⟨_, List.append_assoc ..⟩

/-- The path of a target ends where a query or a fragment begins. -/
theorem target_path {cs : List Char} {target : Target} (h : Target.ofChars? cs = some target) :
    target.path = .ofList (cs.takeWhile fun c => !(c == '?' || c == '#')) := by
  unfold Target.ofChars? at h
  rw [List.span_eq_takeWhile_dropWhile] at h
  dsimp only at h
  -- The first case split is on the question mark, the second one on the characters.
  split at h
  all_goals
    split at h
    · rw [← Option.some.inj h]
    · cases h

/-- A target is written with its path first. -/
theorem target_render (target : Target) :
    ∃ rest, target.render.toList = target.path.toList ++ rest := by
  unfold Target.render
  cases target.query with
  | none => exact ⟨[], (List.append_nil _).symm⟩
  | some query =>
      rw [String.toList_append, String.toList_append, List.append_assoc]
      exact ⟨_, rfl⟩

/-- What is written behind an authority ends it. -/
theorem render_ends (h : parse? scheme text = some endpoint) :
    ∃ rest, endpoint.render.toList =
      endpoint.scheme.name.toList ++ ':' :: '/' :: '/' :: endpoint.authority.toList ++ rest ∧
        authorityOf rest = [] := by
  obtain ⟨-, -, htarget⟩ := parse_parts h
  have hpath := target_path htarget
  obtain ⟨behind, hbehind⟩ := target_render endpoint.target
  have hrender : endpoint.render.toList =
      endpoint.scheme.name.toList ++ ':' :: '/' :: '/' :: endpoint.authority.toList ++
        ((if endpoint.target.path.isEmpty then ['/'] else []) ++
          (endpoint.target.path.toList ++ behind)) := by
    unfold render
    rw [← hbehind]
    split <;> simp
  refine ⟨_, hrender, ?_⟩
  by_cases hempty : endpoint.target.path.isEmpty = true
  · rw [if_pos hempty]
    exact authority_of_end (by decide) _
  · -- The path begins where the authority that was read has ended.
    rw [if_neg hempty, List.nil_append]
    cases hrest : text.toList.dropWhile continuesAuthority with
    | nil =>
        rw [hrest] at hpath
        rw [hpath] at hempty
        exact absurd rfl hempty
    | cons c rest =>
        have hc : continuesAuthority c = false := by
          have hhead := List.head?_dropWhile_not continuesAuthority text.toList
          rw [hrest] at hhead
          exact hhead
        rw [hrest, List.takeWhile_cons] at hpath
        split at hpath
        · rw [hpath, String.toList_ofList]
          exact authority_of_end hc _
        · rw [hpath] at hempty
          exact absurd rfl hempty

/-- An address is written with the authority that it was read with. -/
theorem authority_render (h : parse? scheme text = some endpoint) :
    authority? endpoint.render = some (authorityOf text.toList) := by
  obtain ⟨rest, hrender, hrest⟩ := render_ends h
  obtain ⟨-, hauthority, -⟩ := parse_parts h
  have hall : endpoint.scheme.name.toList.all (· != ':') = true := by
    cases endpoint.scheme <;> decide
  have hscheme : ∀ c ∈ endpoint.scheme.name.toList, (c != ':') = true := List.all_eq_true.1 hall
  unfold authority?
  rw [hrender, List.append_assoc, List.dropWhile_append_of_pos hscheme]
  show some (authorityOf (endpoint.authority.toList ++ rest)) = _
  rw [hauthority, String.toList_ofList]
  rw [authority_of_ended (authority_of_continues _) hrest]

end Endpoint

end EdgeFleet.Uri
