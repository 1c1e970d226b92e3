/-
  WorkflowPolicy/Proofs/Workflow/Passes.lean
  ==========================================
  **The passes of the compiler.**  Every pass after reading refuses for one reason
  that can be told from the workflow: sandbox types, firewall settings, engine
  support, strict mode, and at last a number that is too long for the text it goes
  into.  Compilation ends with the first of these failures, and with the policy of the
  finished workflow when there is none (`compile_guarded`).
-/
import WorkflowPolicy.Policy
import WorkflowPolicy.Proofs.Workflow.Reading

namespace WorkflowPolicy

def Failure.invalid (v : Violation) : Failure := .policy (.invalid v)

def Failure.strict (v : Violation) : Failure := .policy (.strict v)

/-! ### One pass at a time -/

theorem Sandbox.checkTypes_outcome (s : Option Sandbox) :
    (checkTypes s).outcome = Check.guarded ((s.bind violation?).map .invalid) () := by
  rw [checkTypes]
  cases s.bind violation? <;> rfl

def Firewall.violation? (f : Firewall) : Option Violation :=
  if f.allowUrls ≠ [] ∧ f.sslBump = false then some allowUrlsViolation
  else if f.logLevel = "" ∨ f.logLevel ∈ logLevels then none
  else some (logLevelViolation f.logLevel)

theorem Firewall.checkLogLevel_outcome (level : Text) :
    (checkLogLevel level).outcome
      = Check.guarded
          ((if level = "" ∨ level ∈ logLevels then none else some (logLevelViolation level)).map
            .invalid) () := by
  rw [checkLogLevel]
  split
  · rfl
  · rfl

theorem Firewall.checkAllowUrls_outcome (f : Firewall) :
    f.checkAllowUrls.outcome
      = Check.guarded
          ((if f.allowUrls ≠ [] ∧ f.sslBump = false then some allowUrlsViolation else none).map
            .invalid) () := by
  rw [checkAllowUrls]
  split
  · rfl
  · rfl

theorem Workflow.checkFirewall_outcome (n : Network) :
    (checkFirewall n).outcome
      = Check.guarded ((n.firewall.bind Firewall.violation?).map .invalid) () := by
  rw [checkFirewall]
  cases n.firewall with
  | none => rfl
  | some f =>
    have hpasses := Check.outcome_bind_guarded f.checkAllowUrls_outcome
      (f := fun _ => Firewall.checkLogLevel f.logLevel) (Firewall.checkLogLevel_outcome f.logLevel)
    refine hpasses.trans (congrArg (Check.guarded · ()) ?_)
    rw [Option.bind_some, Firewall.violation?]
    split
    · rfl
    · rfl

/-- The failure that restrictions lead to when the engine cannot enforce them. -/
def Network.supportFailure? (engine : Option Text) (n : Network) (strict : Bool)
    (supported : List Text) : Option Failure :=
  if strict = true ∧ n.isRestricted = true ∧ engine.any (supported.contains ·) = false then
    some (.policy (.networkSupport (engine.getD "") supportText))
  else none

theorem Network.checkSupport_outcome (engine : Option Text) (n : Network) (strict : Bool)
    (supported : List Text) :
    (checkSupport engine n strict supported).outcome
      = Check.guarded (supportFailure? engine n strict supported) () := by
  rw [checkSupport, supportFailure?]
  cases strict <;> cases n.isRestricted <;> cases engine.any (supported.contains ·) <;> rfl

def Workflow.strictFailure? (w : Workflow) : Option Failure :=
  if w.strict then
    (Strict.violation? w.permissions (some w.network) w.tools w.servers).map .strict
  else none

theorem Workflow.checkStrict_outcome (w : Workflow) :
    w.checkStrict.outcome = Check.guarded w.strictFailure? () := by
  rw [checkStrict, strictFailure?]
  cases w.strict with
  | false => rfl
  | true =>
    rw [if_pos rfl, if_pos rfl, Strict.check]
    cases Strict.violation? w.permissions (some w.network) w.tools w.servers <;> rfl

/-! ### All passes -/

namespace Workflow

/-- The first failure of the passes that follow reading. -/
def passFailure? (settings : Settings) (w : Workflow) : Option Failure :=
  ((w.sandbox.bind Sandbox.violation?).map .invalid).or <|
    ((w.network.firewall.bind Firewall.violation?).map .invalid).or <|
      (Network.supportFailure? w.engine w.network w.strict settings.firewallEngineSupport).or
        w.strictFailure?

theorem passFailure?_eq_none_iff {settings : Settings} {w : Workflow} :
    passFailure? settings w = none ↔ w.sandbox.bind Sandbox.violation? = none
      ∧ w.network.firewall.bind Firewall.violation? = none
      ∧ Network.supportFailure? w.engine w.network w.strict settings.firewallEngineSupport = none
      ∧ w.strictFailure? = none := by
  simp only [passFailure?, Option.or_eq_none_iff, Option.map_eq_none_iff]

def failure? (settings : Settings) (asked : Option Bool) (m : Mapping) : Option Failure :=
  (readingFailure? m).or (passFailure? settings (reading settings asked m))

def ready (settings : Settings) (w : Workflow) : Workflow :=
  { w with sandbox := some (finalSandbox settings w) }

theorem validate_guarded (settings : Settings) (asked : Option Bool) (m : Mapping) :
    (validate settings asked m).outcome
      = Check.guarded (failure? settings asked m) (ready settings (reading settings asked m)) := by
  have hstrict : (ready settings (reading settings asked m)).checkStrict.outcome
      = Check.guarded (reading settings asked m).strictFailure? () :=
    checkStrict_outcome (ready settings (reading settings asked m))
  have hlast : ∀ o : Option Failure, o = o.or none := fun o => (Option.or_none).symm
  rw [failure?, passFailure?, hlast (reading settings asked m).strictFailure?]
  refine Check.outcome_bind_guarded (ofFrontmatter_outcome settings asked m) ?_
  refine Check.outcome_bind_guarded (Sandbox.checkTypes_outcome _) ?_
  refine Check.outcome_bind_guarded (checkFirewall_outcome _) ?_
  refine Check.outcome_bind_guarded (Network.checkSupport_outcome _ _ _ _) ?_
  exact Check.outcome_bind_guarded hstrict rfl

end Workflow

/-! ### The policy -/

namespace Policy

theorem derive_outcome (settings : Settings) (w : Workflow) :
    (derive settings w).outcome
      = Check.guarded (Check.overlong? (isOverlong w)) (ofWorkflow settings w) := by
  rw [derive, SafeOutput.Plan.build, Concurrency.build, Concurrency.buildJob, isOverlong]
  cases (SafeOutput.Plan.compile w.trialMode w.safeOutputs).isOverlong
    <;> cases Concurrency.isOverlongFor w.trigger w.isCommand w.concurrency
    <;> cases Concurrency.isOverlongFor w.trigger w.isCommand w.engineConcurrency
    <;> rfl

/-- Whether the policy of a frontmatter that passes all checks cannot be put into
    text. -/
def derivesOverlong (settings : Settings) (asked : Option Bool) (m : Mapping) : Bool :=
  isOverlong (Workflow.reading settings asked m)

/-- The first failure of a compilation: of reading, of a check, or of deriving the
    policy. -/
def failure? (settings : Settings) (asked : Option Bool) (m : Mapping) : Option Failure :=
  (Workflow.failure? settings asked m).or (Check.overlong? (derivesOverlong settings asked m))

theorem failure?_eq_none_iff {settings : Settings} {asked : Option Bool} {m : Mapping} :
    failure? settings asked m = none ↔ Workflow.failure? settings asked m = none
      ∧ derivesOverlong settings asked m = false := by
  rw [failure?, Option.or_eq_none_iff, Check.overlong?_eq_none_iff]

/-- **Compilation** ends with the first failure, and without one with the policy of
    the finished workflow. -/
theorem compile_guarded (settings : Settings) (asked : Option Bool) (m : Mapping) :
    (compile settings asked m).outcome
      = Check.guarded (failure? settings asked m)
          (ofWorkflow settings (Workflow.ready settings (Workflow.reading settings asked m))) :=
  Check.outcome_bind_guarded (Workflow.validate_guarded settings asked m)
    (derive_outcome settings (Workflow.ready settings (Workflow.reading settings asked m)))

theorem compile_eq_ok_iff {settings : Settings} {asked : Option Bool} {m : Mapping}
    {p : Policy} :
    (compile settings asked m).outcome = .ok p ↔ failure? settings asked m = none
      ∧ ofWorkflow settings (Workflow.ready settings (Workflow.reading settings asked m)) = p := by
  rw [compile_guarded]
  constructor
  · exact Check.guarded_eq_ok
  · rintro ⟨hnone, rfl⟩
    rw [hnone]
    rfl

end Policy

end WorkflowPolicy
