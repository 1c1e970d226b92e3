/-
  WorkflowPolicy/Proofs/Check.lean
  ================================
  **Pipelines of checks.**  A pass is described by the failure that it may end with
  and by the value that it yields otherwise (`Check.guarded`).  Passes that run one
  after the other are described by the first failure among theirs
  (`outcome_bind_guarded`), so the order of a pipeline can be read off.

  Schemas are described in the same way by all their refusals (`Verdict.guarded`),
  which put themselves together in the order of the fields.  A value that was accepted in
  the end was accepted in every step (`Verdict.seq_eq_accepted` and its siblings).
-/
import WorkflowPolicy.Failure

namespace WorkflowPolicy

/-! ### Verdicts -/

namespace Verdict

variable {α β γ : Type}

/-- A value that is accepted unless there are refusals. -/
def guarded (rs : List Refusal) (a : α) : Verdict α :=
  if rs.isEmpty then .accepted a else .refused rs

@[simp] theorem guarded_nil (a : α) : guarded [] a = .accepted a := rfl

@[simp] theorem guarded_cons (r : Refusal) (rs : List Refusal) (a : α) :
    guarded (r :: rs) a = .refused (r :: rs) := rfl

@[simp] theorem map_guarded (f : α → β) (rs : List Refusal) (a : α) :
    f <$> guarded rs a = guarded rs (f a) := by
  cases rs <;> rfl

theorem both_guarded (f : α → β → γ) (rs ss : List Refusal) (a : α) (b : β) :
    f <$> guarded rs a <*> guarded ss b = guarded (rs ++ ss) (f a b) := by
  cases rs with
  | nil => cases ss <;> rfl
  | cons r rs =>
    cases ss with
    | nil =>
      rw [List.append_nil]
      rfl
    | cons s ss => rfl

theorem guarded_eq_accepted {rs : List Refusal} {a b : α} (h : guarded rs a = .accepted b) :
    rs = [] ∧ a = b := by
  cases rs with
  | nil => exact ⟨rfl, Verdict.accepted.inj h⟩
  | cons r rs => cases h

def under (s : Step) (r : Refusal) : Refusal := { r with path := s :: r.path }

@[simp] theorem within_guarded (s : Step) (rs : List Refusal) (a : α) :
    (guarded rs a).within s = guarded (rs.map (under s)) a := by
  cases rs <;> rfl

/-- The verdicts of a list refuse everything that one of them refuses. -/
theorem all_guarded {ι : Type} (l : List ι) (refusals : ι → List Refusal) (value : ι → α) :
    all (l.map fun i => guarded (refusals i) (value i))
      = guarded (l.flatMap refusals) (l.map value) := by
  induction l with
  | nil => rfl
  | cons i l ih =>
    have hstep := both_guarded List.cons (refusals i) (l.flatMap refusals) (value i) (l.map value)
    rw [List.map_cons, all, ih, hstep]
    rfl

theorem map_eq_accepted {f : α → β} {v : Verdict α} {b : β} :
    f <$> v = .accepted b ↔ ∃ a, v = .accepted a ∧ f a = b := by
  cases v with
  | accepted a =>
    show Verdict.accepted (f a) = .accepted b ↔ _
    simp
  | refused rs =>
    show Verdict.refused rs = .accepted b ↔ _
    simp

theorem seq_eq_accepted {f : Verdict (α → β)} {v : Verdict α} {b : β} :
    f <*> v = .accepted b ↔ ∃ g a, f = .accepted g ∧ v = .accepted a ∧ g a = b := by
  show both f v = .accepted b ↔ _
  cases f <;> cases v <;> simp [both]

theorem andThen_eq_accepted {v : Verdict α} {rule : α → Verdict β} {b : β} :
    v.andThen rule = .accepted b ↔ ∃ a, v = .accepted a ∧ rule a = .accepted b := by
  cases v <;> simp [andThen]

theorem within_eq_accepted {s : Step} {v : Verdict α} {a : α} :
    v.within s = .accepted a ↔ v = .accepted a := by
  cases v <;> simp [within]

end Verdict

/-! ### Checks -/

namespace Check

variable {α β : Type}

/-- An outcome that is a value unless there is a failure. -/
def guarded (failure : Option Failure) (a : α) : Except Failure α :=
  match failure with
  | some e => .error e
  | none => .ok a

/-- Of two passes that run one after the other, the first one that fails decides. -/
theorem outcome_bind_guarded {x : Check α} {f : α → Check β} {e e' : Option Failure} {a : α}
    {b : β} (hx : x.outcome = guarded e a) (hf : (f a).outcome = guarded e' b) :
    (x >>= f).outcome = guarded (e.or e') b := by
  rw [outcome_bind, hx]
  cases e with
  | none => exact hf
  | some e => rfl

/-- The failure of refusals: none without any. -/
def refusal? (rs : List Refusal) : Option Failure :=
  if rs.isEmpty then none else some (.refused rs)

theorem outcome_ofVerdict_guarded (rs : List Refusal) (a : α) :
    (ofVerdict (Verdict.guarded rs a)).outcome = guarded (refusal? rs) a := by
  cases rs <;> rfl

/-- The failure of a number that is too long. -/
def overlong? (isOverlong : Bool) : Option Failure := if isOverlong then some .overlong else none

theorem outcome_unlessOverlong (isOverlong : Bool) :
    (unlessOverlong isOverlong).outcome = guarded (overlong? isOverlong) () := by
  cases isOverlong <;> rfl

theorem overlong?_or (a b : Bool) : overlong? (a || b) = (overlong? a).or (overlong? b) := by
  cases a <;> rfl

/-- A value that is refused only for a number that is too long. -/
theorem outcome_guard (isOverlong : Bool) (a : α) :
    (do unlessOverlong isOverlong; return a : Check α).outcome
      = guarded (overlong? isOverlong) a := by
  cases isOverlong <;> rfl

theorem overlong?_eq_none_iff {isOverlong : Bool} :
    overlong? isOverlong = none ↔ isOverlong = false := by
  cases isOverlong <;> simp [overlong?]

theorem refusal?_eq_none_iff {rs : List Refusal} : refusal? rs = none ↔ rs = [] := by
  cases rs <;> simp [refusal?]

theorem exists_guarded_iff {e : Option Failure} {a : α} :
    (∃ b, guarded e a = .ok b) ↔ e = none := by
  cases e <;> simp [guarded]

theorem guarded_eq_ok {e : Option Failure} {a b : α} (h : guarded e a = .ok b) :
    e = none ∧ a = b := by
  cases e with
  | none => exact ⟨rfl, Except.ok.inj h⟩
  | some e => cases h

end Check

end WorkflowPolicy
