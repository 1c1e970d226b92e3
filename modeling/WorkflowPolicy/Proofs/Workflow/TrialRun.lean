/-
  WorkflowPolicy/Proofs/Workflow/TrialRun.lean
  ============================================
  **A trial run differs in staging alone.**  One frontmatter is compiled twice, under
  settings that differ in the trial mode and its repository, once in trial mode: under
  some settings and under `settings.forTrial repo`.  Both runs fail alike, or both yield
  policies whose written forms differ in the mode and in the plan, and whose plans differ
  in the signal of staging, which the trial run never sends (`compile_forTrial`).

  No pass looks at the two settings: reading hands them on, and only the plan of the safe
  outputs depends on the mode, through the one signal.  The author may use its name, so
  the environments are compared without the entries under that name; what is written
  under one name does not show among the others (`Assoc.without_insertAll`).
-/
import WorkflowPolicy.Proofs.SafeOutput.Signals
import WorkflowPolicy.Proofs.Workflow.Passes

namespace WorkflowPolicy

/-- The settings of a trial run, with the repository that it writes to. -/
def Settings.forTrial (settings : Settings) (repo : Option Text) : Settings :=
  { settings with trialMode := true, trialRepo := repo }

/-! ### Plans that differ in staging -/

namespace SafeOutput.Plan

/-- Two plans that agree in everything but staging and its variable. -/
structure SameButStaging (p q : Plan) : Prop where
  handlers : p.handlerConfig = q.handlerConfig
  projectHandlers : p.projectHandlerConfig = q.projectHandlerConfig
  assignCopilot : p.assignCopilot = q.assignCopilot
  env : p.env.without stagedVariable = q.env.without stagedVariable

theorem without_entry (trial : Bool) (b : Block) (s : Signal) :
    (s.entry true b).without stagedVariable = (s.entry trial b).without stagedVariable := by
  cases s with
  | staged =>
    rw [Signal.entry, Signal.entry, Signal.value?, Signal.value?]
    cases b.actions.any (isStaged true b) <;> cases b.actions.any (isStaged trial b) <;> rfl
  | _ => rfl

theorem without_entries (trial : Bool) (b : Block) (l : List Signal) :
    Fields.without (l.flatMap (Signal.entry true b)) stagedVariable
      = Fields.without (l.flatMap (Signal.entry trial b)) stagedVariable := by
  induction l with
  | nil => rfl
  | cons s l ih =>
    have happend : ∀ m n : Fields Text, Fields.without (m ++ n) stagedVariable
        = m.without stagedVariable ++ n.without stagedVariable :=
      Assoc.without_append id stagedVariable
    rw [List.flatMap_cons, List.flatMap_cons, happend, happend, without_entry trial, ih]

theorem sameButStaging_ofBlock (trial : Bool) (b : Block) :
    (ofBlock true b).SameButStaging (ofBlock trial b) := by
  constructor
  · rfl
  · rfl
  · rfl
  · have hwritten : ∀ entries : Fields Text,
        Fields.without (Assoc.insertAll id b.env entries) stagedVariable
          = Assoc.insertAll id (b.env.without stagedVariable) (entries.without stagedVariable) :=
      Assoc.without_insertAll id stagedVariable b.env
    rw [env_ofBlock, env_ofBlock, hwritten, hwritten, without_entries trial]

theorem staged_ofBlock_true (b : Block) : (ofBlock true b).staged = false := by
  show b.actions.any (isStaged true b) = false
  simp [isStaged]

/-- A plan that is not staged is that of a trial run. -/
theorem ofBlock_true_of_not_staged {trial : Bool} {b : Block}
    (h : (ofBlock trial b).staged = false) : ofBlock true b = ofBlock trial b := by
  have hnone : b.actions.any (isStaged trial b) = false := h
  have htrial : b.actions.any (isStaged true b) = false := staged_ofBlock_true b
  simp only [ofBlock, hnone, htrial]

end SafeOutput.Plan

/-! ### Workflows of a trial run -/

namespace Workflow

def forTrial (w : Workflow) (repo : Option Text) : Workflow :=
  { w with trialMode := true, trialRepo := repo }

section Runs

variable (settings : Settings) (repo : Option Text) (asked : Option Bool) (m : Mapping)

theorem reading_forTrial :
    reading (settings.forTrial repo) asked m = (reading settings asked m).forTrial repo := rfl

theorem ready_forTrial (w : Workflow) :
    ready (settings.forTrial repo) (w.forTrial repo) = (ready settings w).forTrial repo := rfl

theorem failure?_forTrial :
    failure? (settings.forTrial repo) asked m = failure? settings asked m := rfl

end Runs

end Workflow

/-! ### Two runs -/

namespace Policy

open SafeOutput (Plan)

theorem ofWorkflow_forTrial (settings : Settings) (repo : Option Text) (w : Workflow) :
    ofWorkflow (settings.forTrial repo) (w.forTrial repo)
      = { ofWorkflow settings w with
          workflow := w.forTrial repo
          plan := Plan.compile true w.safeOutputs } := rfl

/-- The policy of a trial run beside that of another run. -/
structure UnstagesOnly (trial other : Policy) : Prop where
  /-- The written forms agree but for the mode and the plan. -/
  written : other.toFields
    = (trial.toFields.insert "trial_mode" (.bool other.workflow.trialMode)).insert "safe_outputs"
        other.plan.toData
  plan : trial.plan.SameButStaging other.plan
  staged : trial.plan.staged = false
  /-- Where the other run does not stage either, the plans are the same. -/
  unstaged : other.plan.staged = false → trial.plan = other.plan

/-- The outcome of a trial run beside that of another run: the same failure, or policies
    that differ in staging. -/
inductive TrialUnstagesOnly : Except Failure Policy → Except Failure Policy → Prop where
  | failure (e : Failure) : TrialUnstagesOnly (.error e) (.error e)
  | policy {p q : Policy} (h : p.UnstagesOnly q) : TrialUnstagesOnly (.ok p) (.ok q)

theorem toFields_forTrial (p : Policy) (repo : Option Text) (plan : Plan) :
    p.toFields
      = ((toFields { p with workflow := p.workflow.forTrial repo, plan := plan }).insert
          "trial_mode" (.bool p.workflow.trialMode)).insert "safe_outputs" p.plan.toData := by
  simp [toFields, Workflow.forTrial, firewallData, Fields.insert, Assoc.insert]

theorem unstagesOnly_ofWorkflow (settings : Settings) (repo : Option Text) (w : Workflow) :
    (ofWorkflow (settings.forTrial repo) (w.forTrial repo)).UnstagesOnly
      (ofWorkflow settings w) := by
  rw [ofWorkflow_forTrial]
  constructor
  · exact toFields_forTrial (ofWorkflow settings w) repo _
  · show (Plan.compile true w.safeOutputs).SameButStaging (Plan.compile w.trialMode w.safeOutputs)
    cases w.safeOutputs with
    | none => exact ⟨rfl, rfl, rfl, rfl⟩
    | some b => exact Plan.sameButStaging_ofBlock w.trialMode b
  · show (Plan.compile true w.safeOutputs).staged = false
    cases w.safeOutputs with
    | none => rfl
    | some b => exact Plan.staged_ofBlock_true b
  · show (Plan.compile w.trialMode w.safeOutputs).staged = false
      → Plan.compile true w.safeOutputs = Plan.compile w.trialMode w.safeOutputs
    intro hstaged
    cases hsafe : w.safeOutputs with
    | none => rfl
    | some b =>
      rw [hsafe] at hstaged
      exact Plan.ofBlock_true_of_not_staged hstaged

/-- Payloads are the same in a trial run, and so are the numbers in them. -/
theorem derivesOverlong_forTrial (settings : Settings) (repo : Option Text)
    (asked : Option Bool) (m : Mapping) :
    derivesOverlong (settings.forTrial repo) asked m = derivesOverlong settings asked m := by
  rw [derivesOverlong, derivesOverlong, Workflow.reading_forTrial, isOverlong, isOverlong]
  have hplan : ∀ (trial : Bool) (b : Option SafeOutput.Block),
      (Plan.compile true b).isOverlong = (Plan.compile trial b).isOverlong := by
    intro trial b
    cases b <;> rfl
  rw [← hplan (Workflow.reading settings asked m).trialMode]
  rfl

theorem failure?_forTrial (settings : Settings) (repo : Option Text) (asked : Option Bool)
    (m : Mapping) :
    failure? (settings.forTrial repo) asked m = failure? settings asked m := by
  rw [failure?, failure?, Workflow.failure?_forTrial, derivesOverlong_forTrial]

/-- **A trial run differs in staging alone**, whatever the settings, the frontmatter and
    the strictness that is asked for. -/
theorem compile_forTrial (settings : Settings) (repo : Option Text) (asked : Option Bool)
    (m : Mapping) :
    TrialUnstagesOnly (compile (settings.forTrial repo) asked m).outcome
      (compile settings asked m).outcome := by
  rw [compile_guarded, compile_guarded, failure?_forTrial, Workflow.reading_forTrial,
    Workflow.ready_forTrial]
  cases failure? settings asked m with
  | some e => exact .failure e
  | none => exact .policy (unstagesOnly_ofWorkflow settings repo _)

/-- Under the name of the signal the author's entry stays in a trial run, in its place. -/
example :
    let block := SafeOutput.Block.ofMapping
      [(.text "noop", .null), (.text "staged", .bool true),
       (.text "env", .map [(.text Plan.stagedVariable, .text "no"), (.text "A", .text "y")])]
    (Plan.ofBlock false block).env.take 2
        = ([(Plan.stagedVariable, "true"), ("A", "y")] : Fields Text)
      ∧ (Plan.ofBlock true block).env.take 2
        = ([(Plan.stagedVariable, "no"), ("A", "y")] : Fields Text) := by
  decide +kernel

end Policy

end WorkflowPolicy
