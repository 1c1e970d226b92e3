/-
  WorkflowPolicy/Proofs/Workflow/Reading.lean
  ===========================================
  **What reading a frontmatter yields.**  The sandbox, the tools and the tool servers
  are the only parts that can be refused, so a workflow is read unless a safe output
  is rejected, a key of one of them is refused, or a number on the way is too long
  (`ofFrontmatter_outcome`).
-/
import WorkflowPolicy.Proofs.Sandbox.Request
import WorkflowPolicy.Workflow

namespace WorkflowPolicy

theorem Workflow.textKeys_eq_guarded (field : Text) (m : Mapping) :
    textKeys field m = Verdict.guarded (m.refusals field) m.withTextKeys := by
  have hkeys : Verdict.all ((m.map (·.1)).map Schema.key)
      = Verdict.guarded (m.flatMap fun e => Schema.keyRefusals e.1)
          (m.map fun e => Schema.keyName e.1) := by
    rw [List.map_map, ← Verdict.all_guarded]
    refine congrArg Verdict.all (List.map_congr_left ?_)
    intro e _
    exact Schema.key_eq_guarded e.1
  have hzip : ((m.map fun e => Schema.keyName e.1).map Data.text).zip (m.map (·.2))
      = m.map fun e => (Data.text (Schema.keyName e.1), e.2) := by
    rw [List.map_map]
    exact List.zip_map'
  rw [textKeys, hkeys, Verdict.map_guarded, Verdict.within_guarded, hzip]
  rfl

/-! ### Parts whose numbers become texts -/

theorem Network.read_outcome (m : Mapping) :
    (read m).outcome = Check.guarded (Check.overlong? (isOverlong m)) (ofFrontmatter? m) :=
  Check.outcome_guard _ _

theorem Permissions.read_outcome (d : Data) :
    (read d).outcome = Check.guarded (Check.overlong? (isOverlong d)) (ofData? d) :=
  Check.outcome_guard _ _

/-- The warnings that extraction leaves do not keep a block from being read. -/
theorem SafeOutput.Block.read_outcome (m : Mapping) :
    (read m).outcome = Check.guarded (Check.overlong? (isOverlong m)) (extract m) := by
  rw [read, Check.outcome_bind]
  exact Check.outcome_guard _ _

theorem Sandbox.read_outcome (m : Mapping) :
    (read m).outcome
      = Check.guarded ((Check.overlong? (isOverlong (m.value "sandbox"))).or
          (Check.refusal? (request m).refusals)) (request m).sandbox := by
  refine Check.outcome_bind_guarded (Check.outcome_unlessOverlong _) ?_
  rw [ofFrontmatter_eq_guarded]
  exact Check.outcome_ofVerdict_guarded _ _

/-! ### Whole frontmatters -/

namespace Workflow

theorem triggerOf_congr {m n : Mapping} (hon : m.get? "on" = n.get? "on")
    (htrue : m.get? (.bool true) = n.get? (.bool true)) : triggerOf m = triggerOf n := by
  rw [triggerOf, triggerOf, hon, Mapping.value, Mapping.value, htrue]

/-- The first kind of safe output that is configured with the wildcard as its target. -/
def rejectedKind? (m : Mapping) : Option SafeOutput.Kind :=
  match m.value "safe-outputs" with
  | .map es =>
    SafeOutput.Kind.all.find? fun k =>
      (Mapping.get? es k.name).any SafeOutput.Action.namesWildcard
  | _ => none

def rejection? (m : Mapping) : Option Failure :=
  (rejectedKind? m).map fun k =>
    .policy (.safeOutput k.name SafeOutput.Block.rejectionReason)

def toolRefusals (m : Mapping) : List Refusal :=
  (mappingAt m "tools").refusals "tools" ++ (mappingAt m "mcp-servers").refusals "mcp_servers"

/-- The failure of the parts that are read before the sandbox. -/
def headFailure? (m : Mapping) : Option Failure :=
  (Check.overlong? (Network.isOverlong m)).or <|
    (Check.overlong? (SafeOutput.Block.isOverlong m)).or <|
      (rejection? m).or <| Check.overlong? (Permissions.isOverlong (m.value "permissions"))

def readingFailure? (m : Mapping) : Option Failure :=
  (headFailure? m).or <| (Check.overlong? (Sandbox.isOverlong (m.value "sandbox"))).or <|
    (Check.refusal? (Sandbox.request m).refusals).or <| Check.refusal? (toolRefusals m)

/-- Whether a number that reading puts into text is too long. -/
def readsOverlong (m : Mapping) : Bool :=
  Network.isOverlong m || SafeOutput.Block.isOverlong m
    || Permissions.isOverlong (m.value "permissions") || Sandbox.isOverlong (m.value "sandbox")

theorem readingFailure?_eq_none_iff {m : Mapping} :
    readingFailure? m = none ↔ readsOverlong m = false ∧ rejectedKind? m = none
      ∧ (Sandbox.request m).refusals = [] ∧ toolRefusals m = [] := by
  simp only [readingFailure?, headFailure?, readsOverlong, rejection?, Option.or_eq_none_iff,
    Option.map_eq_none_iff, Check.refusal?_eq_none_iff, Check.overlong?_eq_none_iff,
    Bool.or_eq_false_iff]
  tauto

/-- The workflow of a frontmatter that nothing is wrong with. -/
def reading (settings : Settings) (asked : Option Bool) (m : Mapping) : Workflow :=
  { name := ((m.value "name").text?).getD ""
    trigger := triggerOf m
    permissions := Permissions.ofData? (m.value "permissions")
    network := networkOf m
    sandbox := (Sandbox.request m).sandbox.map Sandbox.migrate
    safeOutputs := (SafeOutput.Block.extract m).block
    engine := (engineOf (m.value "engine")).1
    engineConcurrency := (engineOf (m.value "engine")).2
    concurrency := m.value "concurrency"
    tools := (mappingAt m "tools").withTextKeys
    servers := (mappingAt m "mcp-servers").withTextKeys
    strict := strictness settings asked m
    trialMode := settings.trialMode
    trialRepo := settings.trialRepo
    commands := Trigger.commandNames (triggerOf m) }

theorem head?_rejected (m : Mapping) :
    (SafeOutput.Block.extract m).rejected.head? = rejectedKind? m := by
  rw [SafeOutput.Block.extract, rejectedKind?]
  cases m.value "safe-outputs" with
  | map es => exact List.head?_filter
  | _ => rfl

theorem checkRejected_outcome (m : Mapping) :
    (checkRejected (SafeOutput.Block.extract m).rejected).outcome
      = Check.guarded (rejection? m) () := by
  rw [rejection?, ← head?_rejected]
  cases (SafeOutput.Block.extract m).rejected <;> rfl

/-- **Reading.**  A rejected safe output comes first, then the refused keys of the
    sandbox, then those of tools and servers together; a number that is too long is met
    where its part is read. -/
theorem ofFrontmatter_outcome (settings : Settings) (asked : Option Bool) (m : Mapping) :
    (ofFrontmatter settings asked m).outcome
      = Check.guarded (readingFailure? m) (reading settings asked m) := by
  have htools : (Check.ofVerdict
      (Prod.mk <$> textKeys "tools" (mappingAt m "tools")
        <*> textKeys "mcp_servers" (mappingAt m "mcp-servers"))).outcome
      = Check.guarded (Check.refusal? (toolRefusals m))
          ((mappingAt m "tools").withTextKeys, (mappingAt m "mcp-servers").withTextKeys) := by
    rw [textKeys_eq_guarded, textKeys_eq_guarded, Verdict.both_guarded]
    exact Check.outcome_ofVerdict_guarded _ _
  -- the parts in the order in which they are read; no other part can fail
  have hrest : readingFailure? m
      = (Check.overlong? (Network.isOverlong m)).or
          ((Check.overlong? (SafeOutput.Block.isOverlong m)).or
            ((rejection? m).or
              ((Check.overlong? (Permissions.isOverlong (m.value "permissions"))).or
                (((Check.overlong? (Sandbox.isOverlong (m.value "sandbox"))).or
                  (Check.refusal? (Sandbox.request m).refusals)).or
                    ((Check.refusal? (toolRefusals m)).or none))))) := by
    simp only [readingFailure?, headFailure?, Option.or_none, Option.or_assoc]
  rw [hrest]
  refine Check.outcome_bind_guarded (Network.read_outcome m) ?_
  refine Check.outcome_bind_guarded (SafeOutput.Block.read_outcome m) ?_
  refine Check.outcome_bind_guarded (checkRejected_outcome m) ?_
  refine Check.outcome_bind_guarded (Permissions.read_outcome _) ?_
  refine Check.outcome_bind_guarded (Sandbox.read_outcome m) ?_
  refine Check.outcome_bind_guarded htools ?_
  rfl

end Workflow

end WorkflowPolicy
