/-
  WorkflowPolicy/Proofs/Trigger.lean
  ==================================
  **What a trigger block says.**  It names events by itself, by the texts of a list, or by
  the keys of a mapping, which need not be texts (`Names`).  A workflow is one of a command
  when a command key stands in a mapping; what stands under the key gives the command a
  name at most (`commandNames_ne_nil`).

  The kinds of workflows are conditions on single events, so each of them holds of a block
  exactly when it names an event of that kind.
-/
import WorkflowPolicy.Proofs.Assoc
import WorkflowPolicy.Trigger

namespace WorkflowPolicy.Trigger

variable {on : Data} {e : Text}

/-! ### Events -/

inductive Names : Data → Text → Prop where
  | bare (e : Text) : Names (.text e) e
  | item {xs : List Data} {e : Text} (h : .text e ∈ xs) : Names (.list xs) e
  | key {es : Mapping} {k v : Data} (h : (k, v) ∈ es) : Names (.map es) k.display

theorem mem_events : e ∈ events on ↔ Names on e := by
  constructor
  · intro h
    cases on with
    | text s =>
      obtain rfl := List.mem_singleton.mp h
      exact .bare e
    | list xs =>
      obtain ⟨d, hd, hde⟩ := List.mem_filterMap.mp h
      cases d with
      | text s =>
        obtain rfl := Option.some.inj hde
        exact .item hd
      | _ => cases hde
    | map es =>
      obtain ⟨⟨k, v⟩, hentry, rfl⟩ := List.mem_map.mp h
      exact .key hentry
    | _ => cases h
  · intro h
    cases h with
    | bare => exact List.mem_singleton_self e
    | item hitem => exact List.mem_filterMap.mpr ⟨.text e, hitem, rfl⟩
    | key hentry => exact List.mem_map.mpr ⟨_, hentry, rfl⟩

theorem any_events {p : Text → Bool} :
    (events on).any p = true ↔ ∃ e, Names on e ∧ p e = true := by
  rw [List.any_eq_true]
  refine exists_congr ?_
  intro e
  rw [mem_events]

/-! ### Kinds of workflows -/

/-- Events that bind a run to an issue, a pull request, a discussion or a push. -/
def Binds (e : Text) : Prop :=
  e ∈ (["issues", "issue_comment", "push"] : List Text)
    ∨ ("pull_request" : Text).isPrefixOf e = true ∨ ("discussion" : Text).isPrefixOf e = true

theorem isPullRequest_iff :
    isPullRequest on = true ↔ ∃ e, Names on e ∧ ("pull_request" : Text).isPrefixOf e = true :=
  any_events

theorem isBound_iff : isBound on = true ↔ ∃ e, Names on e ∧ Binds e := by
  have hpush : isPush on = true ↔ ∃ e, Names on e ∧ e = "push" := by
    rw [isPush, List.contains_iff_mem, mem_events]
    simp
  rw [isBound, Bool.or_eq_true, Bool.or_eq_true, Bool.or_eq_true, isIssue, any_events,
    isPullRequest_iff, isDiscussion, any_events, hpush, ← exists_or, ← exists_or, ← exists_or]
  refine exists_congr ?_
  intro e
  rw [Binds, ← and_or_left, ← and_or_left, ← and_or_left]
  refine and_congr_right ?_
  intro _
  simp only [Bool.or_eq_true, beq_iff_eq, List.mem_cons, List.not_mem_nil, or_false]
  tauto

/-! ### Commands -/

/-- One of the command keys stands in the block, with whatever value. -/
def HasCommand (on : Data) : Prop :=
  ∃ es : Mapping, on = .map es ∧ ∃ key ∈ commandKeys, ∃ v, (Data.text key, v) ∈ es

/-- A command without a name has the empty one, so no command goes unseen. -/
theorem namesOf_ne_nil (v : Data) : namesOf v ≠ [] := by
  have hfound : ∀ found : List Text, (if found.isEmpty then [.empty] else found) ≠ [] := by
    intro found
    cases found with
    | nil => simp
    | cons name found => simp
  exact hfound _

theorem commandNames_ne_nil : commandNames on ≠ [] ↔ HasCommand on := by
  cases on with
  | map es =>
    rw [commandNames, ne_eq, List.flatMap_eq_nil_iff]
    push Not
    constructor
    · rintro ⟨key, hmem, hne⟩
      refine ⟨es, rfl, key, hmem, ?_⟩
      rw [← Mapping.get?_ne_none_iff]
      intro hget
      rw [hget] at hne
      exact hne rfl
    · rintro ⟨es', hes, key, hmem, hentry⟩
      obtain rfl := Data.map.inj hes
      obtain ⟨v, hv⟩ := Option.ne_none_iff_exists'.mp (Mapping.get?_ne_none_iff.mpr hentry)
      refine ⟨key, hmem, ?_⟩
      rw [hv]
      exact namesOf_ne_nil v
  | _ => simp [commandNames, HasCommand]

end WorkflowPolicy.Trigger
