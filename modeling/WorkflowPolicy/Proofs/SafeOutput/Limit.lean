/-
  WorkflowPolicy/Proofs/SafeOutput/Limit.lean
  ===========================================
  **Limits in normal form.**  The limit of an action is stored as text: an expression as
  it was written, a number as the canonical numeral of what is left of it without its
  fraction and under the ceiling, and for every other value the default of the kind
  (`Kind.IsNormalLimit`).  A raw value has one normal form, the one that is stored
  (`Kind.isNormalLimit_iff`).

  A stored limit gives itself, as text and as an author would write it, and the limit is
  all that the key decides (`Action.ofOptions_insert_max`).  So an action that is built
  again from its own limit stays the same.  The one raw value that gives no action is a
  number with too many digits, which is lowered to no ceiling and replaced by no default
  (`Action.ofOptions_normalLimit`).
-/
import WorkflowPolicy.Proofs.SafeOutput.Ceiling
import WorkflowPolicy.Proofs.SafeOutput.OwnField
import WorkflowPolicy.Proofs.Templatable

namespace WorkflowPolicy.SafeOutput

/-! ### The normal form -/

namespace Kind

/-- The text of a limit in normal form for a raw value, and the number in that text. -/
inductive IsNormalLimit (k : Kind) : Data → Option Text → Option Int → Prop where
  | expression {s : Text} (hs : Templatable.isExpression s = true) :
      IsNormalLimit k (.text s) (some s) none
  | number {raw : Data} {q : ℚ} {cs : List Char} (hraw : raw.IsNumber q)
      (hcs : Text.IsCanonical cs (k.lowered (towardZero q))) :
      IsNormalLimit k raw (some (.ofChars cs)) (some (k.lowered (towardZero q)))
  | default {raw : Data} {n : Int} {cs : List Char} (hraw : raw.IsNoInteger)
      (hn : k.defaultMax = some n) (hcs : Text.IsCanonical cs n) :
      IsNormalLimit k raw (some (.ofChars cs)) (some n)
  | unlimited {raw : Data} (hraw : raw.IsNoInteger) (hn : k.defaultMax = none) :
      IsNormalLimit k raw none none

variable {k : Kind} {raw : Data}

theorem limit_of_isNumber {q : ℚ} (h : raw.IsNumber q) :
    k.limit raw = some (.literal (k.lowered (towardZero q))) :=
  limit_of_literal (Templatable.integer?_of_isNumber h)

theorem limit_of_isNoInteger (h : raw.IsNoInteger) : k.limit raw = k.defaultLimit := by
  rw [limit, Templatable.integer?_eq_none h]

theorem IsNormalLimit.eq_stored {t : Option Text} {v : Option Int}
    (h : k.IsNormalLimit raw t v) (hshort : Templatable.isOverlong raw = false) :
    t = (k.limit raw).map (·.integerText) ∧ v = Templatable.storedNumber? t := by
  have hlimit : k.IsLimit (k.limit raw) := k.isLimit_limit hshort
  cases h with
  | expression hs =>
    rw [limit_expression hs, Templatable.storedNumber?, Option.bind_some,
      Templatable.ofIntegerText_of_isExpression hs]
    exact ⟨rfl, rfl⟩
  | number hraw hcs =>
    obtain rfl := Text.isCanonical_iff.mp hcs
    rw [limit_of_isNumber hraw] at hlimit ⊢
    exact ⟨rfl, (Templatable.storedNumber?_ofInt hlimit.2).symm⟩
  | default hraw hn hcs =>
    obtain rfl := Text.isCanonical_iff.mp hcs
    rw [limit_of_isNoInteger hraw, defaultLimit, hn] at hlimit ⊢
    exact ⟨rfl, (Templatable.storedNumber?_ofInt hlimit.2).symm⟩
  | unlimited hraw hn =>
    rw [limit_of_isNoInteger hraw, defaultLimit, hn]
    exact ⟨rfl, rfl⟩

theorem exists_isNormalLimit (k : Kind) (raw : Data) : ∃ t v, k.IsNormalLimit raw t v := by
  rcases raw.expression_or_isNumber with ⟨s, rfl, hs⟩ | ⟨q, hq⟩ | hnone
  · exact ⟨some s, none, .expression hs⟩
  · exact ⟨_, _, .number hq (Text.isCanonical_ofInt _)⟩
  · cases hn : k.defaultMax with
    | none => exact ⟨none, none, .unlimited hnone hn⟩
    | some n => exact ⟨_, _, .default hnone hn (Text.isCanonical_ofInt n)⟩

/-- A raw value has one normal form. -/
theorem isNormalLimit_iff {t : Option Text} {v : Option Int}
    (hshort : Templatable.isOverlong raw = false) :
    k.IsNormalLimit raw t v ↔
      t = (k.limit raw).map (·.integerText) ∧ v = Templatable.storedNumber? t := by
  constructor
  · exact fun h => h.eq_stored hshort
  · rintro ⟨rfl, rfl⟩
    obtain ⟨t, v, h⟩ := k.exists_isNormalLimit raw
    obtain ⟨rfl, rfl⟩ := h.eq_stored hshort
    exact h

theorem IsNormalLimit.expression_or_isCanonical {s : Text} {v : Option Int}
    (h : k.IsNormalLimit raw (some s) v) :
    Templatable.isExpression s = true
      ∨ ∃ cs n, s = .ofChars cs ∧ Text.IsCanonical cs n := by
  cases h with
  | expression hs => exact .inl hs
  | number hraw hcs => exact .inr ⟨_, _, rfl, hcs⟩
  | default hraw hn hcs => exact .inr ⟨_, _, rfl, hcs⟩

/-! ### Stored limits as raw values -/

theorem limit_integerText {t : Option (Templatable Int)} (h : k.IsLimit t) :
    k.limit (Templatable.storedData (t.map (·.integerText))) = t := by
  match t with
  | none => exact defaultLimit_of_isLimit_none h
  | some (.literal n) =>
    show k.limit (.text (Decimal.ofInt n)) = _
    rw [limit, Templatable.integer?_ofInt]
    exact if_neg (Bool.eq_false_iff.mp h.1)
  | some (.expression s) => exact limit_expression h

theorem isOverlong_integerText {t : Option (Templatable Int)} (h : k.IsLimit t) :
    Templatable.isOverlong (Templatable.storedData (t.map (·.integerText))) = false := by
  match t with
  | none => rfl
  | some (.literal n) =>
    have hfew := Text.hasTooManyDigits_ofInt n
    rw [show Decimal.isWritable n = true from h.2] at hfew
    show Templatable.isOverlong (.text (Decimal.ofInt n)) = false
    rw [Templatable.isOverlong, Text.chars?_ofString, Option.any_some, hfew]
    exact Bool.and_false _
  | some (.expression s) => exact Templatable.isOverlong_of_isExpression h

theorem authoredData_integerText {t : Option (Templatable Int)} (h : k.IsLimit t) :
    Templatable.authoredData (t.map (·.integerText)) = (t.map (·.integerData)).getD .null := by
  match t with
  | none => rfl
  | some (.literal n) =>
    exact congrArg Templatable.integerData (Templatable.ofIntegerText_ofInt h.2)
  | some (.expression s) =>
    exact congrArg Templatable.integerData (Templatable.ofIntegerText_of_isExpression h)

end Kind

/-! ### Another limit -/

namespace Action

theorem get?_prepared_insert_max (k : Kind) (m : Mapping) (d : Data) {key : Text}
    (hkey : key ≠ "max") :
    (k.prepared (m.insert "max" d)).get? key = (k.prepared m).get? key := by
  refine Kind.get?_prepared_congr (Mapping.get?_insert_of_ne hkey m d) fun _ _ => ?_
  exact Mapping.get?_insert_of_ne (by decide) m d

/-- No option is called like the limit. -/
theorem raw?_prepared_insert_max {k : Kind} {o : OptionSpec} (ho : o ∈ k.options) (m : Mapping)
    (d : Data) : o.raw? (k.prepared (m.insert "max" d)) = o.raw? (k.prepared m) := by
  have hkey : o.key ≠ "max" := fun h => k.max_notMem_keys (h ▸ List.mem_map.mpr ⟨o, ho, rfl⟩)
  rw [OptionSpec.raw?, OptionSpec.raw?, get?_prepared_insert_max k m d hkey,
    get?_prepared_insert_max k m d (k.field_ne_max ho)]

theorem value_prepared_insert_max (k : Kind) (m : Mapping) (d : Data) :
    (k.prepared (m.insert "max" d)).value "max" = d := by
  have hget : (k.prepared (m.insert "max" d)).get? "max" = some d :=
    Kind.get?_prepared_of_eq_some (m.get?_insert_self "max" d)
  rw [Mapping.value, hget]
  rfl

theorem ofMapping_insert_max (k : Kind) (m : Mapping) (d : Data) :
    ofMapping k (m.insert "max" d) = { ofMapping k m with max := k.limit d } := by
  have hmax : (ofMapping k (m.insert "max" d)).max = k.limit d := by
    rw [ofMapping, value_prepared_insert_max]
  have hstaged : (k.prepared (m.insert "max" d)).value "staged" = (k.prepared m).value "staged" :=
    Mapping.value_congr (get?_prepared_insert_max k m d (by decide))
  have hsettings : k.options.map (·.setting? (k.prepared (m.insert "max" d)))
      = k.options.map (·.setting? (k.prepared m)) := by
    apply List.map_congr_left
    intro o ho
    rw [OptionSpec.setting?, OptionSpec.setting?, raw?_prepared_insert_max ho]
  rw [← hmax]
  simp only [ofMapping, hstaged, hsettings]

/-- The limit is all that the key decides. -/
theorem ofOptions_insert_max {k : Kind} {m : Mapping} {a : Action} {d : Data}
    (h : ofOptions k m = .accepted a) (hshort : Templatable.isOverlong d = false) :
    ofOptions k (m.insert "max" d) = .accepted { a with max := k.limit d } := by
  obtain ⟨rfl, hwildcard, hoptions⟩ := ofOptions_eq_accepted.mp h
  refine ofOptions_eq_accepted.mpr ⟨ofMapping_insert_max k m d, hwildcard, ?_⟩
  rw [Kind.isOverlong, Bool.or_eq_false_iff, List.any_eq_false] at hoptions ⊢
  refine ⟨(value_prepared_insert_max k m d).symm ▸ hshort, ?_⟩
  intro o ho
  rw [OptionSpec.isOverlong, raw?_prepared_insert_max ho]
  exact hoptions.2 o ho

/-- The limit alone keeps an action from being built only where it is too long. -/
theorem ofOptions_max (k : Kind) (d : Data) :
    (∃ a, ofOptions k [(.text "max", d)] = .accepted a) ↔ Templatable.isOverlong d = false := by
  constructor
  · rintro ⟨a, ha⟩
    obtain ⟨-, -, hshort⟩ := ofOptions_eq_accepted.mp ha
    rw [Kind.isOverlong_prepared] at hshort
    exact (Bool.or_eq_false_iff.mp hshort).1
  · intro hshort
    have hdefault : ofOptions k [] = .accepted (ofMapping k []) :=
      ofOptions_eq_accepted.mpr ⟨rfl, by cases k <;> decide +kernel, by cases k <;> decide +kernel⟩
    exact ⟨_, ofOptions_insert_max hdefault hshort⟩

def limitText? (a : Action) : Option Text := a.max.map (·.integerText)

/-- **Limits have one normal form.**  Every raw limit gives an action, unless it is a
    number that is too long, and every action holds the normal form of its raw limit:
    nothing, an expression or a canonical numeral.  The action is built again from what it
    holds, as it is or as an author would write it. -/
theorem ofOptions_normalLimit (k : Kind) (raw : Data) :
    ((∃ a, ofOptions k [(.text "max", raw)] = .accepted a)
        ↔ Templatable.isOverlong raw = false)
      ∧ ∀ (m : Mapping) (a : Action), m.value "max" = raw → ofOptions k m = .accepted a →
        (∀ t v, k.IsNormalLimit raw t v ↔ t = a.limitText? ∧ v = Templatable.storedNumber? t)
        ∧ (∀ s, a.limitText? = some s →
          Templatable.isExpression s = true
            ∨ ∃ cs n, s = .ofChars cs ∧ Text.IsCanonical cs n)
        ∧ ofOptions k (m.insert "max" (Templatable.storedData a.limitText?)) = .accepted a
        ∧ ofOptions k (m.insert "max" (Templatable.authoredData a.limitText?)) = .accepted a := by
  refine ⟨ofOptions_max k raw, ?_⟩
  rintro m a rfl h
  have hmax : a.max = k.limit (m.value "max") := by
    obtain ⟨rfl, -⟩ := ofOptions_eq_accepted.mp h
    exact max_ofMapping k m
  have hshort : Templatable.isOverlong (m.value "max") = false := by
    obtain ⟨-, -, hshort⟩ := ofOptions_eq_accepted.mp h
    rw [Kind.isOverlong_prepared] at hshort
    exact (Bool.or_eq_false_iff.mp hshort).1
  have hlimit : k.IsLimit a.max := hmax ▸ k.isLimit_limit hshort
  have hnormal : ∀ t v, k.IsNormalLimit (m.value "max") t v ↔
      t = a.limitText? ∧ v = Templatable.storedNumber? t := by
    intro t v
    rw [limitText?, hmax]
    exact Kind.isNormalLimit_iff hshort
  refine ⟨hnormal, ?_, ?_, ?_⟩
  · intro s hs
    have hform := (hnormal _ _).mpr ⟨rfl, rfl⟩
    rw [hs] at hform
    exact hform.expression_or_isCanonical
  · rw [limitText?, ofOptions_insert_max h (Kind.isOverlong_integerText hlimit),
      Kind.limit_integerText hlimit]
  · rw [limitText?, Kind.authoredData_integerText hlimit,
      ofOptions_insert_max h (Kind.isOverlong_integerData hlimit), Kind.limit_integerData hlimit]

/-- A limit that is too long is not lowered to the ceiling: there is no action. -/
theorem ofOptions_longLimit :
    ¬ ∃ a, ofOptions .dispatchWorkflow [(.text "max", .int Decimal.tooLong)] = .accepted a := by
  rw [ofOptions_max, Templatable.isOverlong_int, Decimal.isWritable_tooLong]
  decide

/-- Ninety-nine dispatches and a half. -/
def manyDispatches : Mapping :=
  [(.text "workflows", .list [.text "ci"]),
   (.text "max", .float (.finite false 7001690045677568 (-46)))]

theorem ofOptions_normalLimit_lowered :
    ∃ a, ofOptions .dispatchWorkflow manyDispatches = .accepted a
      ∧ a.limitText? = some (.ofString "50")
      ∧ (∀ t v, Kind.dispatchWorkflow.IsNormalLimit (manyDispatches.value "max") t v ↔
        t = a.limitText? ∧ v = Templatable.storedNumber? t)
      ∧ (∀ s, a.limitText? = some s →
        Templatable.isExpression s = true
            ∨ ∃ cs n, s = .ofChars cs ∧ Text.IsCanonical cs n)
      ∧ ofOptions .dispatchWorkflow
        (manyDispatches.insert "max" (Templatable.storedData a.limitText?)) = .accepted a
      ∧ ofOptions .dispatchWorkflow
        (manyDispatches.insert "max" (Templatable.authoredData a.limitText?)) = .accepted a := by
  have h : ofOptions .dispatchWorkflow manyDispatches
      = .accepted (ofMapping .dispatchWorkflow manyDispatches) :=
    ofOptions_eq_accepted.mpr ⟨rfl, by decide +kernel, by decide +kernel⟩
  exact ⟨_, h, by decide +kernel,
    (ofOptions_normalLimit .dispatchWorkflow _).2 manyDispatches _ rfl h⟩

end Action

end WorkflowPolicy.SafeOutput
