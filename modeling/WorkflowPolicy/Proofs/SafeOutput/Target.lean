/-
  WorkflowPolicy/Proofs/SafeOutput/Target.lean
  ============================================
  **The target repository that options name.**  Options name it under the key of the
  option or else under the name of its field, and only targeted kinds have one
  (`targetRepo?_ofMapping`).

  The wildcard is refused twice: the raw options are refused when it stands under
  the key, whatever the kind, and the finished action when it is the target that
  was read.  Of the other mappings of options all give an action but those with a
  number that is too long (`extract?_eq_none_iff`), so the two refusals differ exactly
  on a wildcard that stands under the name of the field alone (`Kind.HidesWildcard`).
-/
import WorkflowPolicy.Proofs.SafeOutput.ReadBack

namespace WorkflowPolicy.SafeOutput

/-! ### The option -/

namespace Kind

theorem get?_prepared_of_ne (k : Kind) (m : Mapping) {key : Text} (h : key ≠ "labels") :
    (k.prepared m).get? key = m.get? key := by
  rw [prepared]
  split
  · refine Assoc.get?_insert_of_ne Data.keyForm ?_ _ _
    simpa using h.symm
  · rfl

theorem labels_notMem_nameOrNumber (k : Kind) : ∀ o ∈ k.options, o.rule = .nameOrNumber →
    o.key ≠ "labels" ∧ o.field ≠ "labels" := by
  cases k <;> decide +kernel

theorem any_options_congr {k : Kind} {p q : OptionSpec → Bool}
    (h : ∀ o ∈ k.options, p o = q o) : k.options.any p = k.options.any q := by
  rw [Bool.eq_iff_iff, List.any_eq_true, List.any_eq_true]
  exact exists_congr fun o => and_congr_right fun ho => by rw [h o ho]

/-- Preparing adds no number. -/
theorem isOverlong_prepared (k : Kind) (m : Mapping) :
    k.isOverlong (k.prepared m) = k.isOverlong m := by
  have hmax : (k.prepared m).value "max" = m.value "max" :=
    Mapping.value_congr (k.get?_prepared_of_ne m (by decide))
  have hoption : ∀ o ∈ k.options, o.isOverlong (k.prepared m) = o.isOverlong m := by
    intro o ho
    by_cases hrule : o.rule = .nameOrNumber
    · obtain ⟨hkey, hfield⟩ := k.labels_notMem_nameOrNumber o ho hrule
      rw [OptionSpec.isOverlong, OptionSpec.isOverlong, OptionSpec.raw?, OptionSpec.raw?,
        k.get?_prepared_of_ne m hkey, k.get?_prepared_of_ne m hfield]
    · have hnever : o.rule.isOverlong = fun _ => false := by
        funext d
        cases hr : o.rule with
        | nameOrNumber => exact (hrule hr).elim
        | _ => rfl
      simp [OptionSpec.isOverlong, hnever]
  rw [isOverlong, isOverlong, hmax, any_options_congr hoption]

/-- The target repository that options name: under the key, else under the name of the
    field.  What is no text names none. -/
def namedTarget? (k : Kind) (m : Mapping) : Option Text :=
  if k.isTargeted then
    ((m.get? "target-repo").or (m.get? "target_repo")).bind Data.text?
  else none

/-- The wildcard stands under the name of the field, and nothing under the key. -/
def HidesWildcard (k : Kind) (m : Mapping) : Prop :=
  k.isTargeted = true ∧ m.get? "target-repo" = none
    ∧ m.get? "target_repo" = some (.text Action.wildcardRepo)

theorem namedTarget?_eq_some {k : Kind} {m : Mapping} {s : Text} :
    k.namedTarget? m = some s ↔ k.isTargeted = true
      ∧ (m.get? "target-repo" = some (.text s)
        ∨ m.get? "target-repo" = none ∧ m.get? "target_repo" = some (.text s)) := by
  rw [namedTarget?]
  cases k.isTargeted with
  | false => simp
  | true => simp [Option.bind_eq_some_iff, Data.text?_eq_some, Option.or_eq_some_iff]

theorem namedTarget?_eq_wildcard {k : Kind} {m : Mapping} :
    k.namedTarget? m = some Action.wildcardRepo ↔
      k.isTargeted = true ∧ m.get? "target-repo" = some (.text Action.wildcardRepo)
        ∨ k.HidesWildcard m := by
  rw [namedTarget?_eq_some, and_or_left]
  rfl

theorem HidesWildcard.key_ne {k : Kind} {m : Mapping} (h : k.HidesWildcard m) :
    m.get? "target-repo" ≠ some (.text Action.wildcardRepo) := by
  rw [h.2.1]
  exact nofun

end Kind

namespace Action

/-- Preparing leaves the limit alone. -/
theorem max_ofMapping (k : Kind) (m : Mapping) :
    (ofMapping k m).max = k.limit (m.value "max") := by
  have hget : (k.prepared m).get? "max" = m.get? "max" := k.get?_prepared_of_ne m (by decide)
  show k.limit ((k.prepared m).value "max") = _
  rw [Mapping.value, hget]
  rfl

/-! ### The target of an action -/

theorem targetRepo?_ofMapping (k : Kind) (m : Mapping) :
    (ofMapping k m).targetRepo? = k.namedTarget? m := by
  rw [targetRepo?, Kind.namedTarget?]
  cases htargeted : k.isTargeted with
  | false =>
    have hnone : (ofMapping k m).setting? "target_repo" = none :=
      setting?_of_notMem (k.targetRepo_notMem_fields htargeted)
    rw [hnone]
    rfl
  | true =>
    have hfrom : (ofMapping k m).SettingsFrom (·.setting? (k.prepared m)) := rfl
    have hset : (ofMapping k m).setting? "target_repo"
        = Kind.targetRepoOption.setting? (k.prepared m) :=
      hfrom.setting?_field (Kind.targetRepoOption_mem htargeted)
    -- preparing touches the labels alone: both look-ups see the options as they were written
    have hraw : Kind.targetRepoOption.raw? (k.prepared m)
        = (m.get? "target-repo").or (m.get? "target_repo") := by
      have hkey : (k.prepared m).get? "target-repo" = m.get? "target-repo" :=
        k.get?_prepared_of_ne m (by decide)
      have hfield : (k.prepared m).get? "target_repo" = m.get? "target_repo" :=
        k.get?_prepared_of_ne m (by decide)
      rw [OptionSpec.raw?, Kind.key_targetRepoOption, hkey]
      exact congrArg _ hfield
    rw [hset, OptionSpec.setting?, hraw, if_pos rfl]
    cases (m.get? "target-repo").or (m.get? "target_repo") with
    | none => rfl
    | some d => cases d <;> rfl

/-! ### Which options give an action -/

theorem namesWildcard_optionsOf {k : Kind} {d : Data} {o : Mapping}
    (ho : optionsOf k d = some o) : namesWildcard (.map o) = namesWildcard d := by
  cases d with
  | null =>
    obtain rfl := Option.some.inj ho
    rfl
  | list xs =>
    obtain ⟨field, -, rfl⟩ := Option.map_eq_some_iff.mp ho
    by_cases hfield : field = "target-repo"
    · subst hfield
      rfl
    · simp [namesWildcard, Mapping.get?, Assoc.get?, hfield]
  | map es =>
    obtain rfl := Option.some.inj ho
    rfl
  | _ => cases ho

theorem namesWildcard_map {o : Mapping} :
    namesWildcard (.map o) = true ↔ o.get? "target-repo" = some (.text wildcardRepo) :=
  beq_iff_eq

theorem toOption_ofOptions_eq_none {k : Kind} {o : Mapping} :
    (ofOptions k o).toOption = none ↔
      k.namedTarget? o = some wildcardRepo ∨ k.isOverlong o = true := by
  rw [ofOptions, targetsWildcard, targetRepo?_ofMapping, k.isOverlong_prepared]
  by_cases h : k.namedTarget? o = some wildcardRepo
  · simp [h, Verdict.refuse, Verdict.toOption]
  · cases hlong : k.isOverlong o with
    | true => simp [Verdict.refuse, Verdict.toOption]
    | false => simp [h, Verdict.toOption]

/-- Options are refused for the wildcard and for numbers that are too long. -/
theorem extract?_eq_none_iff {k : Kind} {d : Data} {o : Mapping} (ho : optionsOf k d = some o) :
    extract? k d = none ↔
      o.get? "target-repo" = some (.text wildcardRepo) ∨ k.HidesWildcard o
        ∨ k.isOverlong o = true := by
  rw [extract?, ho, Option.bind_some]
  by_cases hkey : o.get? "target-repo" = some (.text wildcardRepo)
  · rw [if_pos (namesWildcard_map.mpr hkey)]
    exact ⟨fun _ => .inl hkey, fun _ => rfl⟩
  · have hnamed : k.namedTarget? o = some wildcardRepo ↔ k.HidesWildcard o :=
      Kind.namedTarget?_eq_wildcard.trans (or_iff_right fun h => hkey h.2)
    rw [if_neg fun hnames => hkey (namesWildcard_map.mp hnames), toOption_ofOptions_eq_none, hnamed]
    exact ⟨.inr, fun h => h.resolve_left hkey⟩

end Action

end WorkflowPolicy.SafeOutput
