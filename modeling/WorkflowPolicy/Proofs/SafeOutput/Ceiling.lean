/-
  WorkflowPolicy/Proofs/SafeOutput/Ceiling.lean
  =============================================
  **What a ceiling means to a handler.**  A limit is lowered to the ceiling when it is
  read, and left out of the handler's entry when it is not positive; to the handler
  an entry without a limit has none.  For a kind with a ceiling the entry holds a
  number from one to the ceiling or an expression, except where the author wrote a
  number that is not positive: there the limit is lifted (`handlerLimit?_capped`,
  `handlerLimit?_lifted`).
-/
import WorkflowPolicy.Proofs.SafeOutput.Target

namespace WorkflowPolicy.SafeOutput

/-! ### Limits under a ceiling -/

/-- A limit that keeps to a ceiling: a number from one to it, or an expression. -/
def IsCapped (c : Int) : Data → Prop
  | .int n => 1 ≤ n ∧ n ≤ c
  | .text s => Templatable.isExpression s = true
  | _ => False

/-- A raw limit that reads as a number which is not positive. -/
def LiftsLimit (raw : Data) : Prop :=
  ∃ n ≤ 0, Templatable.integer? raw = some (.literal n)

theorem liftsLimit_of_literal {raw : Data} {n : Int}
    (hraw : Templatable.integer? raw = some (.literal n)) : LiftsLimit raw ↔ n ≤ 0 := by
  constructor
  · rintro ⟨l, hl, hlit⟩
    rw [hraw] at hlit
    cases hlit
    exact hl
  · intro hn
    exact ⟨n, hn, hraw⟩

theorem not_liftsLimit {raw : Data} (h : ∀ n, Templatable.integer? raw ≠ some (.literal n)) :
    ¬ LiftsLimit raw := by
  rintro ⟨n, -, hn⟩
  exact h n hn

namespace Kind

/-- A number brought under the ceiling, where there is one. -/
def lowered (k : Kind) (n : Int) : Int := (k.ceiling.map (min n)).getD n

variable {k : Kind} {c : Int}

theorem defaultMax_of_ceiling (h : k.ceiling = some c) :
    ∃ n, k.defaultMax = some n ∧ 1 ≤ n ∧ n ≤ c := by
  cases k with
  | dispatchWorkflow =>
    obtain rfl := Option.some.inj h
    exact ⟨1, rfl, by decide, by decide⟩
  | _ => cases h

theorem limit_of_literal {raw : Data} {n : Int}
    (hraw : Templatable.integer? raw = some (.literal n)) :
    k.limit raw = some (.literal (k.lowered n)) := by
  rw [limit, hraw, lowered]
  cases hc : k.ceiling with
  | none => simp [exceeds, hc]
  | some c =>
    by_cases hn : c < n
    · simp [exceeds, hc, hn, Int.min_eq_right (Int.le_of_lt hn)]
    · simp [exceeds, hc, hn, Int.min_eq_left (Int.not_lt.mp hn)]

theorem lowered_of_ceiling (h : k.ceiling = some c) (n : Int) : k.lowered n = min n c := by
  rw [lowered, h]
  rfl

/-- What a handler is given for a raw limit: nothing if the limit is lifted, and else a
    limit that keeps to the ceiling. -/
theorem limitData?_limit (h : k.ceiling = some c) (raw : Data) :
    LiftsLimit raw ∧ (k.limit raw).bind (·.limitData?) = none
      ∨ ¬ LiftsLimit raw ∧ ∃ d, (k.limit raw).bind (·.limitData?) = some d ∧ IsCapped c d := by
  obtain ⟨m, hm, hone, hceiling⟩ := defaultMax_of_ceiling h
  cases hraw : Templatable.integer? raw with
  | none =>
    -- a malformed limit leaves the default
    refine .inr ⟨not_liftsLimit (by simp [hraw]), .int m, ?_, hone, hceiling⟩
    simp only [limit, hraw, defaultLimit, hm, Option.map_some, Option.bind_some]
    exact if_pos (by omega)
  | some t =>
    cases t with
    | literal n =>
      rw [liftsLimit_of_literal hraw, limit_of_literal hraw, lowered_of_ceiling h, Option.bind_some,
        Templatable.limitData?]
      -- lowering is from above only, and the ceiling is positive: the sign is that of `n`
      by_cases hn : n ≤ 0
      · exact .inl ⟨hn, if_neg (by omega)⟩
      · exact .inr ⟨hn, .int (min n c), if_pos (by omega), by omega, by omega⟩
    | expression s =>
      refine .inr ⟨not_liftsLimit (by simp [hraw]), .text s, ?_, isExpression_of_integer? hraw⟩
      simp only [limit, hraw, Option.bind_some]
      rfl

end Kind

/-! ### The entry of the handler -/

namespace Action

/-- The limit in the entry for the handler; without one the handler applies none. -/
def handlerLimit? (a : Action) : Option Data :=
  a.handlerConfig.entries?.bind (Mapping.get? · "max")

theorem SettingsFrom.handlerLimit?_eq {a : Action} {f : OptionSpec → Option Setting}
    (h : a.SettingsFrom f) : a.handlerLimit? = a.max.bind (·.limitData?) := by
  rw [handlerLimit?, handlerConfig_eq, Fields.ofFields_eq]
  show Mapping.get? (a.written (a.max.bind (·.limitData?))).toMapping (.text "max") = _
  rw [Fields.get?_toMapping, get?_written_max h]

theorem handlerLimit?_ofMapping (k : Kind) (m : Mapping) :
    (ofMapping k m).handlerLimit? = (k.limit (m.value "max")).bind (·.limitData?) := by
  have hfrom : (ofMapping k m).SettingsFrom (·.setting? (k.prepared m)) := rfl
  rw [hfrom.handlerLimit?_eq, max_ofMapping]

/-- **The ceiling reaches the handler.**  An action of a kind with a ceiling gives its
    handler a limit that keeps to the ceiling, unless the options lift the limit. -/
theorem handlerLimit?_capped {k : Kind} {c : Int} {d : Data} {a : Action}
    (hc : k.ceiling = some c) (h : extract? k d = some a) :
    ∃ o, optionsOf k d = some o ∧
      (LiftsLimit (o.value "max") ∧ a.handlerLimit? = none
        ∨ ¬ LiftsLimit (o.value "max") ∧ ∃ x, a.handlerLimit? = some x ∧ IsCapped c x) := by
  obtain ⟨o, ho, haccepted⟩ := accepted_of_extract? h
  refine ⟨o, ho, ?_⟩
  obtain ⟨rfl, -⟩ := ofOptions_eq_accepted.mp haccepted
  rw [handlerLimit?_ofMapping]
  exact Kind.limitData?_limit hc _

theorem handlerLimit?_capped_high :
    ∃ a, extract? .dispatchWorkflow (.map [(.text "max", .text "0500")]) = some a
      ∧ a.handlerLimit? = some (.int 50)
      ∧ ∃ o, optionsOf .dispatchWorkflow (.map [(.text "max", .text "0500")]) = some o ∧
        (LiftsLimit (o.value "max") ∧ a.handlerLimit? = none
          ∨ ¬ LiftsLimit (o.value "max") ∧ ∃ x, a.handlerLimit? = some x ∧ IsCapped 50 x) := by
  have h : extract? .dispatchWorkflow (.map [(.text "max", .text "0500")])
      = some (ofMapping .dispatchWorkflow [(.text "max", .text "0500")]) := by
    decide +kernel
  exact ⟨_, h, by decide +kernel, handlerLimit?_capped rfl h⟩

/-- Zero lifts the limit of a kind that has a ceiling. -/
theorem handlerLimit?_lifted :
    Kind.ceiling .dispatchWorkflow = some 50
      ∧ ∃ a, extract? .dispatchWorkflow (.map [(.text "max", .int 0)]) = some a
        ∧ a.max = some (.literal 0) ∧ a.handlerLimit? = none := by
  have h : extract? .dispatchWorkflow (.map [(.text "max", .int 0)])
      = some (ofMapping .dispatchWorkflow [(.text "max", .int 0)]) := by
    decide +kernel
  exact ⟨rfl, _, h, by decide +kernel, by decide +kernel⟩

end Action

end WorkflowPolicy.SafeOutput
