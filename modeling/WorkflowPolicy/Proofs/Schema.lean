/-
  WorkflowPolicy/Proofs/Schema.lean
  =================================
  **Keys that have to be texts.**  A mapping that is carried as it is needs keys that
  are texts or bytes that encode one.  `Mapping.refusals` lists what is wrong with
  the others; a mapping without refusals is accepted with every key as a text.
-/
import WorkflowPolicy.Proofs.Check

namespace WorkflowPolicy

/-! ### Keys -/

namespace Schema

/-- What is wrong with a key that is neither a text nor bytes that encode one. -/
def keyRefusals (k : Data) : List Refusal :=
  match k with
  | .text _ => []
  | .bytes bs =>
    match utf8? bs with
    | some _ => []
    | none => [⟨[keyStep k, .name "[key]"], .unreadableText⟩]
  | _ => [⟨[keyStep k, .name "[key]"], .notText⟩]

def keyName (k : Data) : Text := ((text k).toOption).getD ""

theorem key_eq_guarded (k : Data) : key k = Verdict.guarded (keyRefusals k) (keyName k) := by
  cases k with
  | bytes bs =>
    cases h : utf8? bs <;>
      simp [key, text, keyRefusals, keyName, h, Verdict.within, Verdict.refuse, Verdict.toOption,
        Verdict.guarded]
  | _ => rfl

end Schema

namespace Mapping

/-- The refusals of the keys of a mapping that stands under a field. -/
def refusals (field : Text) (m : Mapping) : List Refusal :=
  (m.flatMap fun e => Schema.keyRefusals e.1).map (Verdict.under (.name field))

def withTextKeys (m : Mapping) : Mapping :=
  if m.strangeKeys.isEmpty then m
  else ofList (m.map fun e => (.text (Schema.keyName e.1), e.2))

end Mapping

theorem Schema.fields_any_eq_guarded (m : Mapping) :
    Schema.fields Schema.any (.map m)
      = Verdict.guarded (m.flatMap fun e => Schema.keyRefusals e.1)
          (Schema.underTexts m (m.map fun e => (Schema.keyName e.1, e.2))) := by
  have hentry : ∀ e : Data × Data,
      Prod.mk <$> Schema.key e.1 <*> (Schema.any e.2).within (Schema.keyStep e.1)
        = Verdict.guarded (Schema.keyRefusals e.1) (Schema.keyName e.1, e.2) := by
    intro e
    have hboth := Verdict.both_guarded Prod.mk (Schema.keyRefusals e.1) [] (Schema.keyName e.1) e.2
    rw [List.append_nil] at hboth
    rw [Schema.key_eq_guarded]
    exact hboth
  rw [Schema.fields, List.map_congr_left fun e _ => hentry e, Verdict.all_guarded,
    Verdict.map_guarded]

end WorkflowPolicy
