/-
  WorkflowPolicy/Proofs/Workflow/StrictOnlyRefuses.lean
  =====================================================
  **Strict mode only refuses.**  One frontmatter is compiled twice, with strict mode
  asked for and with strict mode turned off.  The strict run either fails where the
  other one succeeds, with an error that only strict mode has, or both runs end
  alike (`compile_strictOnlyRefuses`).

  Reading, the defaults and the derivation of the policy hand the flag on without
  looking at it.  Of the checks, the two that look at it come last, so no error of
  theirs stands in front of one that another check has.  It does stand in front of a
  number that is too long, which is met when the policy is derived: that failure alone
  can be masked, and it is whenever strict mode refuses (`Masks`).
-/
import WorkflowPolicy.Proofs.Text.DigitLimit
import WorkflowPolicy.Proofs.Workflow.Passes

namespace WorkflowPolicy

/-! ### Workflows that differ in their strictness -/

namespace Workflow

def withStrict (w : Workflow) (strict : Bool) : Workflow := { w with strict := strict }

/-- What the caller asks for reaches the flag and nothing else. -/
theorem reading_asked (settings : Settings) (strict : Bool) (m : Mapping) :
    reading settings (some strict) m = (reading settings none m).withStrict strict := rfl

theorem ready_withStrict (settings : Settings) (w : Workflow) (strict : Bool) :
    ready settings (w.withStrict strict) = (ready settings w).withStrict strict := rfl

end Workflow

namespace Policy

def withStrict (p : Policy) (strict : Bool) : Policy :=
  { p with workflow := p.workflow.withStrict strict }

theorem ofWorkflow_withStrict (settings : Settings) (w : Workflow) (strict : Bool) :
    ofWorkflow settings (w.withStrict strict) = (ofWorkflow settings w).withStrict strict := rfl

theorem toFields_withStrict (p : Policy) (strict : Bool) :
    (p.withStrict strict).toFields = p.toFields.insert "strict" (.bool strict) := by
  simp [toFields, withStrict, Workflow.withStrict, firewallData, Fields.insert, Assoc.insert]

end Policy

/-! ### Failures of strict mode -/

/-- An error that only strict mode has. -/
inductive Failure.IsStrictOnly : Failure → Prop where
  | support (engine text : Text) : IsStrictOnly (.policy (.networkSupport engine text))
  | review (v : Violation) : IsStrictOnly (.policy (.strict v))

namespace Workflow

/-- The first failure of the two passes that look at the flag. -/
def strictModeFailure? (settings : Settings) (w : Workflow) : Option Failure :=
  (Network.supportFailure? w.engine w.network true settings.firewallEngineSupport).or
    ((Strict.violation? w.permissions (some w.network) w.tools w.servers).map .strict)

theorem isStrictOnly_of_strictModeFailure? {settings : Settings} {w : Workflow} {e : Failure}
    (h : strictModeFailure? settings w = some e) : e.IsStrictOnly := by
  rw [strictModeFailure?, Option.or_eq_some_iff] at h
  rcases h with hsupport | ⟨-, hreview⟩
  · rw [Network.supportFailure?] at hsupport
    split at hsupport
    · cases hsupport
      exact .support _ _
    · cases hsupport
  · obtain ⟨v, -, rfl⟩ := Option.map_eq_some_iff.mp hreview
    exact .review v

/-- The passes that do not look at the flag come first, so a strict workflow fails as it
    would without the flag, or for strict mode. -/
theorem passFailure?_strict (settings : Settings) (w : Workflow) :
    passFailure? settings (w.withStrict true)
      = (passFailure? settings (w.withStrict false)).or (strictModeFailure? settings w) := by
  have hlax : passFailure? settings (w.withStrict false)
      = ((w.sandbox.bind Sandbox.violation?).map .invalid).or
          ((w.network.firewall.bind Firewall.violation?).map .invalid) := by
    have hlast : ∀ o : Option Failure, o.or none = o := fun o => Option.or_none
    rw [← hlast ((w.network.firewall.bind Firewall.violation?).map .invalid)]
    rfl
  rw [hlax, Option.or_assoc]
  rfl

theorem failure?_strict (settings : Settings) (m : Mapping) :
    failure? settings (some true) m
      = (failure? settings (some false) m).or
          (strictModeFailure? settings (reading settings none m)) := by
  rw [failure?, failure?, reading_asked, reading_asked, passFailure?_strict, Option.or_assoc]

end Workflow

/-! ### Two runs -/

namespace Policy

/-- How the outcome of a strict run stands to that of a run that is not strict. -/
structure StrictOnlyRefuses (strict lax : Except Failure Policy) : Prop where
  /-- A policy of the strict run is that of the other run, but for the flag. -/
  policy : ∀ p, strict = .ok p →
    ∃ q, lax = .ok q ∧ q.toFields = p.toFields.insert "strict" (.bool false)
  /-- An error of the other run is not masked, unless it is a number that is too long. -/
  failure : ∀ e, lax = .error e →
    strict = .error e ∨ e = .overlong ∧ ∃ e', strict = .error e' ∧ e'.IsStrictOnly
  /-- Where the strict run alone fails, strict mode is the reason. -/
  refusal : ∀ e q, strict = .error e → lax = .ok q → e.IsStrictOnly

/-- It is enough that the strict run has the failures of the other run, with those of
    strict mode before the last one. -/
theorem strictOnlyRefuses_guarded {shared own : Option Failure} {isOverlong : Bool} {p q : Policy}
    (hown : ∀ e, own = some e → e.IsStrictOnly)
    (hfields : q.toFields = p.toFields.insert "strict" (.bool false)) :
    StrictOnlyRefuses (Check.guarded ((shared.or own).or (Check.overlong? isOverlong)) p)
      (Check.guarded (shared.or (Check.overlong? isOverlong)) q) := by
  cases shared with
  | some e =>
    -- what fails in both modes fails with the same error
    refine ⟨?_, fun e' he' => .inl he', ?_⟩
    · intro p' hp'
      cases hp'
    · intro e' q' _ hq'
      cases hq'
  | none =>
    rw [Option.none_or, Option.none_or]
    cases own with
    | none =>
      -- strict mode has nothing to refuse
      refine ⟨?_, ?_, ?_⟩
      · intro p' hp'
        obtain ⟨hnone, rfl⟩ := Check.guarded_eq_ok hp'
        rw [show Check.overlong? isOverlong = none from hnone]
        exact ⟨q, rfl, hfields⟩
      · intro e' he'
        cases isOverlong with
        | false => cases he'
        | true => exact .inl he'
      · intro e' q' he' hq'
        cases isOverlong with
        | false => cases he'
        | true => cases hq'
    | some e =>
      refine ⟨?_, ?_, ?_⟩
      · intro p' hp'
        cases hp'
      · intro e' he'
        cases isOverlong with
        | false => cases he'
        | true => exact .inr ⟨(Except.error.inj he').symm, e, rfl, hown e rfl⟩
      · intro e' q' he' _
        obtain rfl := Except.error.inj he'
        exact hown e rfl

/-- An error is masked where only strict mode refuses and the number is too long. -/
theorem masked_guarded {shared own : Option Failure} {isOverlong : Bool} {p q : Policy}
    (hown : ∀ e, own = some e → e.IsStrictOnly) :
    (∃ e, Check.guarded (shared.or (Check.overlong? isOverlong)) q = .error e
        ∧ Check.guarded ((shared.or own).or (Check.overlong? isOverlong)) p ≠ .error e)
      ↔ shared = none ∧ shared.or own ≠ none ∧ isOverlong = true := by
  cases shared with
  | some e => exact iff_of_false (fun ⟨_, hlax, hstrict⟩ => hstrict hlax) (fun h => by cases h.1)
  | none =>
    rw [Option.none_or, Option.none_or]
    cases isOverlong with
    | false => exact iff_of_false (fun ⟨_, hlax, _⟩ => by cases hlax) (fun h => by cases h.2.2)
    | true =>
      cases own with
      | none => exact iff_of_false (fun ⟨_, hlax, hstrict⟩ => hstrict hlax) (fun h => h.2.1 rfl)
      | some e =>
        refine iff_of_true ⟨.overlong, rfl, ?_⟩ ⟨rfl, Option.some_ne_none e, rfl⟩
        intro hstrict
        obtain rfl := Except.error.inj hstrict
        cases hown _ rfl

/-- The checks pass without strict mode and refuse with it, and the policy would have
    held a number that is too long. -/
structure Masks (settings : Settings) (m : Mapping) : Prop where
  passes : Workflow.failure? settings (some false) m = none
  refuses : Workflow.failure? settings (some true) m ≠ none
  isOverlong : derivesOverlong settings none m = true

theorem masks_iff {settings : Settings} {m : Mapping} :
    Masks settings m ↔ Workflow.failure? settings (some false) m = none
      ∧ Workflow.failure? settings (some true) m ≠ none
      ∧ derivesOverlong settings none m = true :=
  ⟨fun ⟨hpasses, hrefuses, hlong⟩ => ⟨hpasses, hrefuses, hlong⟩,
    fun ⟨hpasses, hrefuses, hlong⟩ => ⟨hpasses, hrefuses, hlong⟩⟩

/-- **Strict mode only refuses.**  Whatever the frontmatter and the settings, asking
    for strict mode changes no policy, and it masks an error exactly if the frontmatter
    `Masks` a number that is too long. -/
theorem compile_strictOnlyRefuses (settings : Settings) (m : Mapping) :
    StrictOnlyRefuses (compile settings (some true) m).outcome
        (compile settings (some false) m).outcome
      ∧ ((∃ e, (compile settings (some false) m).outcome = .error e
          ∧ (compile settings (some true) m).outcome ≠ .error e) ↔ Masks settings m) := by
  have hown : ∀ e,
      Workflow.strictModeFailure? settings (Workflow.reading settings none m) = some e →
      e.IsStrictOnly := fun _ => Workflow.isStrictOnly_of_strictModeFailure?
  -- the flag does not reach the numbers that go into the policy
  have hsame : ∀ strict, derivesOverlong settings (some strict) m
      = derivesOverlong settings none m := fun _ => rfl
  rw [masks_iff, compile_guarded, compile_guarded, failure?, failure?, hsame, hsame,
    Workflow.failure?_strict]
  refine ⟨strictOnlyRefuses_guarded hown ?_, masked_guarded hown⟩
  rw [Workflow.reading_asked, Workflow.reading_asked, Workflow.ready_withStrict,
    Workflow.ready_withStrict, ofWorkflow_withStrict, ofWorkflow_withStrict]
  exact toFields_withStrict _ false

/-- Write access for everything, and an issue that expires too late. -/
def maskedFrontmatter : Mapping :=
  [(.text "permissions", .text "write-all"),
   (.text "safe-outputs",
    .map [(.text "create-issue", .map [(.text "expires", .int Decimal.tooLong)])])]

/-- The number that is too long ends the run without strict mode, and write access the
    strict one. -/
theorem compile_masked :
    (compile {} (some false) maskedFrontmatter).outcome = .error .overlong
      ∧ (compile {} (some true) maskedFrontmatter).outcome
        = .error (.strict (Strict.writeViolation "contents")) := by
  have hlax : failure? {} (some false) maskedFrontmatter = some .overlong := by decide +kernel
  have hstrict : failure? {} (some true) maskedFrontmatter
      = some (.strict (Strict.writeViolation "contents")) := by
    decide +kernel
  rw [compile_guarded, compile_guarded, hlax, hstrict]
  exact ⟨rfl, rfl⟩

end Policy

end WorkflowPolicy
