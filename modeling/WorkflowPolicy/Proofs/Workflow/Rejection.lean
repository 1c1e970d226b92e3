/-
  WorkflowPolicy/Proofs/Workflow/Rejection.lean
  =============================================
  **What becomes of a configured safe output.**  A kind that stands in the block with
  a value that it takes is configured, or rejected, and a rejected one ends
  compilation (`extract_accounts`).

  Two kinds of options escape (`Kind.IsDropped`).  A wildcard under the name of the field
  alone, and a number that is too long, are refused by the action and not seen by the
  test for rejected kinds, so their kind is neither configured nor rejected and
  compilation goes on without it (`extract_drops_fieldWildcard`).
-/
import WorkflowPolicy.Proofs.SafeOutput.Target
import WorkflowPolicy.Proofs.Workflow.Passes
import Mathlib.Logic.Basic

namespace WorkflowPolicy

/-! ### Rejected kinds end compilation -/

/-- The first rejected kind is the error, in every mode and under all settings, once the
    network and the block are read. -/
theorem Policy.compile_of_head?_rejected {m : Mapping} {k : SafeOutput.Kind}
    (h : (SafeOutput.Block.extract m).rejected.head? = some k)
    (hnetwork : Network.isOverlong m = false) (hblock : SafeOutput.Block.isOverlong m = false)
    (settings : Settings) (asked : Option Bool) :
    (compile settings asked m).outcome
      = .error (.policy (.safeOutput k.name SafeOutput.Block.rejectionReason)) := by
  have hrejection : Workflow.rejection? m
      = some (.policy (.safeOutput k.name SafeOutput.Block.rejectionReason)) := by
    rw [Workflow.rejection?, ← Workflow.head?_rejected, h]
    rfl
  rw [compile_guarded, failure?, Workflow.failure?, Workflow.readingFailure?,
    Workflow.headFailure?, hnetwork, hblock, hrejection]
  rfl

namespace SafeOutput.Block

/-! ### Configured and rejected kinds -/

def Extraction.Configures (x : Extraction) (k : Kind) : Prop :=
  ∃ b ∈ x.block, ∃ a ∈ b.actions, a.kind = k

section Reading

variable {m es : Mapping} {k : Kind} {d : Data}

theorem mem_kinds_ofMapping :
    (∃ a ∈ (ofMapping es).actions, a.kind = k) ↔ actionOf? es k ≠ none := by
  constructor
  · rintro ⟨a, ha, hk⟩
    obtain ⟨l, -, hl⟩ := List.mem_filterMap.mp ha
    obtain rfl : l = k := (kind_of_actionOf? hl).symm.trans hk
    rw [hl]
    exact Option.some_ne_none a
  · intro h
    obtain ⟨a, ha⟩ := Option.ne_none_iff_exists'.mp h
    exact ⟨a, List.mem_filterMap.mpr ⟨k, k.mem_all, ha⟩, kind_of_actionOf? ha⟩

theorem configures_extract (hblock : m.value "safe-outputs" = .map es)
    (hd : Mapping.get? es k.name = some d) :
    (extract m).Configures k ↔ Action.extract? k d ≠ none := by
  have haction : actionOf? es k = Action.extract? k d := by
    rw [actionOf?, hd]
    rfl
  rw [← haction, ← mem_kinds_ofMapping, extract, hblock, Extraction.Configures]
  simp

theorem mem_rejected_iff (hblock : m.value "safe-outputs" = .map es) :
    k ∈ (extract m).rejected ↔ isRejected es k = true := by
  rw [extract, hblock]
  show k ∈ rejectedKinds es ↔ _
  rw [rejectedKinds, List.mem_filter]
  exact and_iff_right k.mem_all

theorem mem_rejected_extract (hblock : m.value "safe-outputs" = .map es)
    (hd : Mapping.get? es k.name = some d) :
    k ∈ (extract m).rejected ↔ Action.namesWildcard d = true := by
  rw [mem_rejected_iff hblock, isRejected, hd, Option.any_some]

end Reading

/-! ### Every kind is accounted for -/

end Block

/-- Options that are dropped: they hide the wildcard, or hold a number that is too long
    where the wildcard does not stand under the key. -/
def Kind.IsDropped (k : Kind) (o : Mapping) : Prop :=
  k.HidesWildcard o
    ∨ k.isOverlong o = true ∧ o.get? "target-repo" ≠ some (.text Action.wildcardRepo)

namespace Block

/-- What is known of a kind that stands in the block of a frontmatter with some options,
    once the block is read. -/
structure Accounts (x : Extraction) (m : Mapping) (k : Kind) (o : Mapping) : Prop where
  /-- It is rejected when the wildcard stands under the key of the target repository. -/
  rejected : k ∈ x.rejected ↔ o.get? "target-repo" = some (.text Action.wildcardRepo)
  /-- It is configured or rejected, and not both, unless the options are dropped. -/
  exactlyOne : Xor (x.Configures k) (k ∈ x.rejected) ↔ ¬ k.IsDropped o
  /-- An action never has the wildcard, and options that name it are rejected unless they
      hide it. -/
  wildcard : k.namedTarget? o = some Action.wildcardRepo →
    ¬ x.Configures k ∧ (k ∈ x.rejected ↔ ¬ k.HidesWildcard o)
  /-- Rejecting it ends compilation, with the error of the first rejected kind where the
      network is read. -/
  aborts : k ∈ x.rejected → Network.isOverlong m = false → ∃ l ∈ x.rejected,
    ∀ settings asked, (Policy.compile settings asked m).outcome
      = .error (.policy (.safeOutput l.name rejectionReason))

theorem accounts_extract {m es : Mapping} {k : Kind} {d : Data} {o : Mapping}
    (hblock : m.value "safe-outputs" = .map es) (hd : Mapping.get? es k.name = some d)
    (ho : Action.optionsOf k d = some o) (hread : isOverlong m = false) :
    Accounts (extract m) m k o := by
  have hconfigured := configures_extract hblock hd
  rw [ne_eq, Action.extract?_eq_none_iff ho] at hconfigured
  have hrejected : k ∈ (extract m).rejected
      ↔ o.get? "target-repo" = some (.text Action.wildcardRepo) := by
    rw [mem_rejected_extract hblock hd, ← Action.namesWildcard_optionsOf ho,
      Action.namesWildcard_map]
  refine ⟨hrejected, ?_, ?_, ?_⟩
  · -- what is dropped is on neither side; otherwise the key alone decides
    rw [hconfigured, hrejected, Kind.IsDropped]
    by_cases hhidden : k.HidesWildcard o
    · simp [hhidden, hhidden.key_ne, Xor]
    · by_cases hkey : o.get? "target-repo" = some (.text Action.wildcardRepo) <;>
        simp [hhidden, hkey, Xor]
  · intro hnamed
    rw [hconfigured, hrejected]
    rcases Kind.namedTarget?_eq_wildcard.mp hnamed with ⟨-, hkey⟩ | hhidden
    · exact ⟨fun h => h (.inl hkey), fun _ h => h.key_ne hkey, fun _ => hkey⟩
    · exact ⟨fun h => h (.inr (.inl hhidden)), fun hkey => (hhidden.key_ne hkey).elim,
        fun h => (h hhidden).elim⟩
  · intro hmem hnetwork
    cases hhead : (extract m).rejected.head? with
    | none =>
      rw [List.head?_eq_none_iff.mp hhead] at hmem
      cases hmem
    | some l =>
      refine ⟨l, List.mem_of_head? hhead, ?_⟩
      intro settings asked
      exact Policy.compile_of_head?_rejected hhead hnetwork hread settings asked

/-- **Configured kinds are accounted for.**  The block is read unless one of its keys is
    too long.  Then a kind in it with a value that it takes is configured or rejected,
    unless its options are dropped. -/
theorem extract_accounts {m es : Mapping} {k : Kind} {d : Data} {o : Mapping}
    (hblock : m.value "safe-outputs" = .map es) (hd : Mapping.get? es k.name = some d)
    (ho : Action.optionsOf k d = some o) :
    if isOverlong m then (read m).outcome = .error .overlong
    else ∃ x, (read m).outcome = .ok x ∧ Accounts x m k o := by
  rw [read_outcome]
  split
  · rename_i hlong
    rw [hlong]
    rfl
  · rename_i hshort
    rw [Bool.not_eq_true] at hshort
    rw [hshort]
    exact ⟨_, rfl, accounts_extract hblock hd ho hshort⟩

/-- Issues with the wildcard under the key, beside comments that hide it. -/
def bothWildcards : Mapping :=
  [(.text "add-comment", .map [(.text "target_repo", .text "*")]),
   (.text "create-issue",
      .map [(.text "target_repo", .text "o/r"), (.text "target-repo", .text "*")])]

theorem extract_accounts_both :
    ∃ x, (read [(.text "safe-outputs", .map bothWildcards)]).outcome = .ok x
      ∧ Accounts x [(.text "safe-outputs", .map bothWildcards)] .createIssue
          [(.text "target_repo", .text "o/r"), (.text "target-repo", .text "*")] := by
  have hissue : Mapping.get? bothWildcards Kind.createIssue.name
      = some (.map [(.text "target_repo", .text "o/r"), (.text "target-repo", .text "*")]) := by
    decide +kernel
  have hshort : ¬ isOverlong [(.text "safe-outputs", .map bothWildcards)] = true := by
    decide +kernel
  have hall := extract_accounts (m := [(.text "safe-outputs", .map bothWildcards)]) rfl hissue rfl
  rwa [if_neg hshort] at hall

/-- The wildcard under the name of the field: options that name it, and a kind that is
    neither configured nor rejected in a workflow that has a policy. -/
theorem extract_drops_fieldWildcard :
    let comments : Mapping := [(.text "target_repo", .text "*")]
    let block : Mapping := [(.text "add-comment", .map comments)]
    let frontmatter : Mapping := [(.text "safe-outputs", .map block)]
    Mapping.get? block Kind.addComment.name = some (.map comments)
      ∧ Action.optionsOf .addComment (.map comments) = some comments
      ∧ Kind.addComment.namedTarget? comments = some Action.wildcardRepo
      ∧ ¬ (extract frontmatter).Configures .addComment
      ∧ .addComment ∉ (extract frontmatter).rejected
      ∧ ∃ p, (Policy.compile {} none frontmatter).outcome = .ok p := by
  intro comments block frontmatter
  have hget : Mapping.get? block Kind.addComment.name = some (.map comments) := by
    decide +kernel
  have hnone : Action.extract? .addComment (.map comments) = none := by
    decide +kernel
  have hfailure : Policy.failure? {} none frontmatter = none := by
    decide +kernel
  refine ⟨hget, rfl, by decide +kernel, ?_, ?_, ?_⟩
  · rw [configures_extract rfl hget]
    exact fun h => h hnone
  · rw [mem_rejected_extract rfl hget]
    decide +kernel
  · rw [Policy.compile_guarded, hfailure]
    exact ⟨_, rfl⟩

end SafeOutput.Block

end WorkflowPolicy
