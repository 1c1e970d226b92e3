/-
  WorkflowPolicy/Proofs/SafeOutput/Writable.lean
  ==============================================
  **Which plans can be built.**  A payload is made of texts, flags and numbers, and a
  number with too many digits has no text.  The limit of an accepted action always has
  one, and so has every setting that is no number: only the options that are numbers,
  such as the days after which an issue expires, can keep a plan from being built
  (`Action.HoldsLongNumber`, `Plan.build_outcome`).
-/
import WorkflowPolicy.Proofs.Check
import WorkflowPolicy.Proofs.Json.Writable
import WorkflowPolicy.Proofs.SafeOutput.Payload

namespace WorkflowPolicy.SafeOutput

open WorkflowPolicy.Json (Writable WritableRow)

/-! ### Settings -/

/-- A setting that is a number with too many digits. -/
def Setting.isOverlong : Setting → Bool
  | .number n => !Decimal.isWritable n
  | _ => false

theorem Setting.writable_toData (s : Setting) : Writable s.toData ↔ s.isOverlong = false := by
  cases s with
  | text s => exact iff_of_true rfl rfl
  | texts l => exact iff_of_true (Json.writable_ofTexts l) rfl
  | flag b => exact iff_of_true rfl rfl
  | number n =>
    rw [toData, Json.writable_int, isOverlong]
    cases Decimal.isWritable n <;> decide
  | template t =>
    cases t with
    | literal b => exact iff_of_true rfl rfl
    | expression s => exact iff_of_true rfl rfl

theorem Kind.writable_integerData {k : Kind} {t : Templatable Int} (h : k.IsLimit (some t)) :
    Writable t.integerData := by
  cases t with
  | literal n => exact Json.writable_int.mpr h.2
  | expression s => exact Json.writable_text s

theorem Kind.writable_limitData? {k : Kind} {t : Templatable Int} {d : Data}
    (h : k.IsLimit (some t)) (hd : t.limitData? = some d) : Writable d := by
  cases t with
  | literal n =>
    rw [Templatable.limitData?] at hd
    split at hd
    · cases hd
      exact Json.writable_int.mpr h.2
    · cases hd
  | expression s =>
    cases hd
    exact Json.writable_text s

/-! ### Actions -/

namespace Action

/-- An option of the action is a number with too many digits. -/
def holdsLongNumber (a : Action) : Bool := a.settings.any fun s => s.any Setting.isOverlong

variable {a : Action} {f : OptionSpec → Option Setting}

theorem writable_settingEntry {o : OptionSpec} {s : Option Setting} :
    (∀ e ∈ settingEntry o s, Writable e.2) ↔ s.any Setting.isOverlong = false := by
  cases s with
  | none => simp [settingEntry]
  | some s => simpa [settingEntry] using s.writable_toData

theorem writable_written (h : a.SettingsFrom f) {limit : Option Data}
    (hlimit : ∀ d ∈ limit, Writable d) :
    Writable (.ofFields (a.written limit)) ↔ a.holdsLongNumber = false := by
  have hmax : ∀ e ∈ limitEntry limit, Writable e.2 := by
    cases limit with
    | none => simp [limitEntry]
    | some d => simpa [limitEntry] using hlimit d rfl
  have hstaged : ∀ e ∈ a.stagedEntry, Writable e.2 := by
    rw [stagedEntry]
    split <;> simp
  have hsettings : (∀ e ∈ a.settingEntries, Writable e.2)
      ↔ ∀ o ∈ a.kind.options, (f o).any Setting.isOverlong = false := by
    simp only [h.settingEntries_eq, List.forall_mem_flatMap, writable_settingEntry]
  rw [Json.writable_ofFields, written, List.forall_mem_append, List.forall_mem_append,
    and_iff_right hmax, and_iff_left hstaged, hsettings, holdsLongNumber, h, List.any_map,
    List.any_eq_false]
  simp only [Function.comp_apply, Bool.not_eq_true]

theorem IsAccepted.writable_toData (h : a.IsAccepted) :
    Writable a.toData ↔ a.holdsLongNumber = false := by
  obtain ⟨f, hf⟩ := h.normal
  rw [toData_eq]
  refine writable_written hf.settings ?_
  intro d hd
  obtain ⟨t, ht, rfl⟩ := Option.map_eq_some_iff.mp hd
  exact Kind.writable_integerData (ht ▸ hf.limit)

theorem IsAccepted.writable_handlerConfig (h : a.IsAccepted) :
    Writable a.handlerConfig ↔ a.holdsLongNumber = false := by
  obtain ⟨f, hf⟩ := h.normal
  rw [handlerConfig_eq]
  refine writable_written hf.settings ?_
  intro d hd
  obtain ⟨t, ht, hdata⟩ := Option.bind_eq_some_iff.mp hd
  exact Kind.writable_limitData? (ht ▸ hf.limit) hdata

end Action

/-! ### Plans -/

/-- An action of a block has an option that is a number with too many digits. -/
def Block.holdsLongNumber (b : Block) : Bool := b.actions.any Action.holdsLongNumber

namespace Plan

variable {b : Block}

theorem writable_entriesFor {actions : List Action} (h : ∀ a ∈ actions, a.IsAccepted)
    (p : Action → Bool) :
    Writable (.ofFields (entriesFor p actions))
      ↔ ∀ a ∈ actions, p a = true → a.holdsLongNumber = false := by
  rw [Json.writable_ofFields]
  constructor
  · intro hentries a ha hp
    exact (h a ha).writable_handlerConfig.mp
      (hentries (a.kind.handlerName, a.handlerConfig) (mem_entriesFor.mpr ⟨a, ha, hp, rfl⟩))
  · rintro hshort e he
    obtain ⟨a, ha, hp, rfl⟩ := mem_entriesFor.mp he
    exact (h a ha).writable_handlerConfig.mpr (hshort a ha hp)

/-- Every action is in one of the two payloads. -/
theorem isOverlong_compile (trial : Bool) (h : ∀ a ∈ b.actions, a.IsAccepted) :
    (compile trial (some b)).isOverlong = b.holdsLongNumber := by
  have hhandlers := writable_entriesFor h (!·.kind.isProject)
  have hprojects := writable_entriesFor h (·.kind.isProject)
  rw [Bool.eq_iff_iff, ← not_iff_not, Bool.not_eq_true, Bool.not_eq_true, isOverlong,
    Bool.or_eq_false_iff, Option.isSome_eq_false_iff, Option.isSome_eq_false_iff,
    Option.isNone_iff_eq_none, Option.isNone_iff_eq_none, Block.holdsLongNumber,
    List.any_eq_false]
  refine (and_congr hhandlers hprojects).trans ?_
  constructor
  · rintro ⟨hother, hproject⟩ a ha
    cases hkind : a.kind.isProject with
    | false => simp [hother a ha (by simp [hkind])]
    | true => simp [hproject a ha hkind]
  · intro hall
    exact ⟨fun a ha _ => Bool.eq_false_iff.mpr (hall a ha),
      fun a ha _ => Bool.eq_false_iff.mpr (hall a ha)⟩

/-- **Building a plan** fails for a long number among the options, and for nothing
    else. -/
theorem build_outcome (trial : Bool) (h : ∀ a ∈ b.actions, a.IsAccepted) :
    (build trial (some b)).outcome
      = Check.guarded (Check.overlong? b.holdsLongNumber) (compile trial (some b)) := by
  rw [← isOverlong_compile trial h]
  exact Check.outcome_guard _ _

end Plan

end WorkflowPolicy.SafeOutput
