/-
  WorkflowPolicy/Failure.lean
  ===========================
  **Why a workflow has no policy.**  A policy error names a rule that the workflow
  breaks; a refusal says that a part of the workflow has data of a type that the
  compiler does not carry; and an integer with too many digits ends the compilation
  where it would be put into text.  `PolicyError.message` is the only place where the
  wording of an error is put together.

  A `Check` is a computation that may fail and may leave warnings on the way.
  Warnings survive a failure, and they never influence the outcome:
  `outcome_bind` says that outcomes alone compose as in `Except`.
-/
import WorkflowPolicy.Schema

namespace WorkflowPolicy

/-! ### Errors -/

/-- A rule that a configuration value breaks: where, with what value, why, and
    what to do about it. -/
structure Violation where
  field : Text
  value : Data
  reason : Text
  suggestion : Text := ""
deriving DecidableEq, Repr

inductive PolicyError where
  | invalid (v : Violation)
  /-- A setting is refused in strict mode. -/
  | strict (v : Violation)
  /-- A configured safe output may not be used. -/
  | safeOutput (action reason : Text)
  /-- The engine cannot enforce the network restrictions. -/
  | networkSupport (engine text : Text)
deriving DecidableEq, Repr

/-- The text of an error.  A strict-mode error shows its reason alone. -/
def PolicyError.message : PolicyError → Text
  | .invalid v =>
    let head := "invalid " ++ v.field ++ ": " ++ v.value.display ++ ". " ++ v.reason
    if v.suggestion = "" then head else head ++ "\n\n" ++ v.suggestion
  | .strict v => v.reason
  | .safeOutput action reason => "safe-outputs." ++ action ++ ": " ++ reason
  | .networkSupport _ text => text

inductive Failure where
  | policy (e : PolicyError)
  | refused (rs : List Refusal)
  /-- An integer has too many digits to be put into text. -/
  | overlong
deriving DecidableEq, Repr

/-! ### Computations with warnings -/

/-- An outcome and the warnings left on the way to it. -/
structure Check (α : Type) where
  outcome : Except Failure α
  warnings : List Text

namespace Check

variable {α β : Type}

def pure (a : α) : Check α := ⟨.ok a, []⟩

def bind (x : Check α) (f : α → Check β) : Check β :=
  match x.outcome with
  | .ok a => ⟨(f a).outcome, x.warnings ++ (f a).warnings⟩
  | .error e => ⟨.error e, x.warnings⟩

instance : Monad Check where
  pure := pure
  bind := bind

def fail (e : Failure) : Check α := ⟨.error e, []⟩

def reject (e : PolicyError) : Check α := fail (.policy e)

def warn (text : Text) : Check Unit := ⟨.ok (), [text]⟩

/-- Go on unless an integer is too long. -/
def unlessOverlong (isOverlong : Bool) : Check Unit :=
  if isOverlong then fail .overlong else pure ()

def withWarnings (a : α) (ws : List Text) : Check α := ⟨.ok a, ws⟩

def ofVerdict : Verdict α → Check α
  | .accepted a => ⟨.ok a, []⟩
  | .refused rs => ⟨.error (.refused rs), []⟩

@[simp] theorem outcome_pure (a : α) : (Pure.pure a : Check α).outcome = .ok a := rfl

@[simp] theorem outcome_fail (e : Failure) : (fail e : Check α).outcome = .error e := rfl

@[simp] theorem outcome_reject (e : PolicyError) :
    (reject e : Check α).outcome = .error (.policy e) := rfl

@[simp] theorem outcome_warn (s : Text) : (warn s).outcome = .ok () := rfl

@[simp] theorem outcome_withWarnings (a : α) (ws : List Text) :
    (withWarnings a ws).outcome = .ok a := rfl

/-- Warnings do not influence outcomes. -/
@[simp] theorem outcome_bind (x : Check α) (f : α → Check β) :
    (x >>= f).outcome = x.outcome >>= fun a => (f a).outcome := by
  show (Check.bind x f).outcome = _
  unfold Check.bind
  cases x.outcome <;> rfl

end Check

end WorkflowPolicy
