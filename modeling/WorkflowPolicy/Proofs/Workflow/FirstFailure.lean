/-
  WorkflowPolicy/Proofs/Workflow/FirstFailure.lean
  ================================================
  **Which error a frontmatter gets.**  The passes check what reading, migration and
  defaults have made of a frontmatter.  Here every failure is traced back to the
  raw values: `conditions` lists them in the order in which they count, and
  compilation ends with the first one that holds, or with a policy
  (`compile_firstFailure`).  A number that is too long is a failure wherever it has to
  be put into text, so it is listed with the part that does so.

  Tools and their servers are the one exception to looking at raw values: their
  keys are texts by the time they are looked up, so bytes that encode a key count
  as that key.
-/
import WorkflowPolicy.Proofs.Network
import WorkflowPolicy.Proofs.Permissions
import WorkflowPolicy.Proofs.SafeOutput.BlockReadBack
import WorkflowPolicy.Proofs.SafeOutput.Writable

namespace WorkflowPolicy

/-! ### The first failure -/

namespace Workflow

/-- A failure that strict mode alone knows. -/
def inStrict (strict : Bool) (e : Option Failure) : Option Failure := if strict then e else none

/-- The engine cannot enforce the domains of a network mapping. -/
def supportFailure? (settings : Settings) (m : Mapping) : Option Failure :=
  let engine := (engineOf (m.value "engine")).1
  if (Network.domains? m).any (· != [Network.defaultSet])
      && !engine.any (settings.firewallEngineSupport.contains ·) then
    some (.policy (.networkSupport (engine.getD "") Network.supportText))
  else none

/-- The permissions grant write access to a scope that strict mode protects. -/
def writeFailure? (m : Mapping) : Option Failure :=
  (Permissions.forbiddenScope? (m.value "permissions")).map fun s =>
    .strict (Strict.writeViolation s)

/-- The wildcard is among the domains of a network mapping. -/
def wildcardFailure? (m : Mapping) : Option Failure :=
  if (Network.domains? m).any (·.contains "*") then some (.strict Strict.wildcardViolation)
  else none

/-- A configured safe output has an option that is a number with too many digits. -/
def holdsLongNumber (m : Mapping) : Bool :=
  (SafeOutput.Block.extract m).block.any SafeOutput.Block.holdsLongNumber

/-- A block of concurrency, or the trigger without one, has a group that is too long. -/
def groupIsOverlong (m : Mapping) (explicit : Data) : Bool :=
  let trigger := triggerOf m
  Concurrency.isOverlongFor trigger (!(Trigger.commandNames trigger).isEmpty) explicit

/-- Everything that can be wrong with a frontmatter, in the order in which it counts. -/
def conditions (settings : Settings) (asked : Option Bool) (m : Mapping) :
    List (Option Failure) :=
  let strict := strictness settings asked m
  [Check.overlong? (Network.isOverlong m),
   Check.overlong? (SafeOutput.Block.isOverlong m),
   rejection? m,
   Check.overlong? (Permissions.isOverlong (m.value "permissions")),
   Check.overlong? (Sandbox.isOverlong (m.value "sandbox")),
   Check.refusal? (Sandbox.request m).refusals,
   Check.refusal? (toolRefusals m),
   (Sandbox.request m).violation?.map .invalid,
   ((Network.firewallOptions? m).bind Firewall.allowUrlsViolation?).map .invalid,
   ((Network.firewallOptions? m).bind Firewall.logLevelViolation?).map .invalid,
   inStrict strict (supportFailure? settings m),
   inStrict strict (writeFailure? m),
   inStrict strict (wildcardFailure? m),
   inStrict strict
     ((Strict.toolsViolation? (mappingAt m "tools").withTextKeys).map .strict),
   inStrict strict
     ((Strict.serversViolation? (mappingAt m "mcp-servers").withTextKeys).map .strict),
   Check.overlong? (holdsLongNumber m),
   Check.overlong? (groupIsOverlong m (m.value "concurrency")),
   Check.overlong? (groupIsOverlong m (engineOf (m.value "engine")).2)]

def firstFailure? (settings : Settings) (asked : Option Bool) (m : Mapping) : Option Failure :=
  (conditions settings asked m).findSome? id

theorem findSome?_id_cons (e : Option Failure) (es : List (Option Failure)) :
    (e :: es).findSome? id = e.or (es.findSome? id) := by
  cases e <;> rfl

theorem inStrict_or (strict : Bool) (e e' : Option Failure) :
    inStrict strict (e.or e') = (inStrict strict e).or (inStrict strict e') := by
  cases strict <;> rfl

theorem supportFailure?_reading (settings : Settings) (asked : Option Bool) (m : Mapping) :
    Network.supportFailure? (reading settings asked m).engine (reading settings asked m).network
        (reading settings asked m).strict settings.firewallEngineSupport
      = inStrict (strictness settings asked m) (supportFailure? settings m) := by
  have hengine : (reading settings asked m).engine = (engineOf (m.value "engine")).1 := rfl
  have hnetwork : (reading settings asked m).network = networkOf m := rfl
  have hstrict : (reading settings asked m).strict = strictness settings asked m := rfl
  rw [hengine, hnetwork, hstrict, Network.supportFailure?, Network.isRestricted_networkOf,
    supportFailure?]
  cases strictness settings asked m <;>
    cases (Network.domains? m).any (· != [Network.defaultSet]) <;>
      cases (engineOf (m.value "engine")).1.any (settings.firewallEngineSupport.contains ·) <;> rfl

theorem strictFailure?_reading (settings : Settings) (asked : Option Bool) (m : Mapping) :
    (reading settings asked m).strictFailure?
      = inStrict (strictness settings asked m)
          ((writeFailure? m).or <| (wildcardFailure? m).or <|
            ((Strict.toolsViolation? (mappingAt m "tools").withTextKeys).map .strict).or
              ((Strict.serversViolation? (mappingAt m "mcp-servers").withTextKeys).map
                .strict)) := by
  have hpermissions : (Strict.permissionsViolation?
        (Permissions.ofData? (m.value "permissions"))).map Failure.strict = writeFailure? m := by
    rw [Strict.permissionsViolation?, Permissions.forbiddenWrite?_ofData?, Option.map_map]
    rfl
  have hwildcard : (Strict.networkViolation? (some (networkOf m))).map Failure.strict
      = wildcardFailure? m := by
    rw [Strict.networkViolation?, Network.allowsEverything_networkOf, wildcardFailure?]
    split
    · rfl
    · rfl
  have hviolation : (Strict.violation? (Permissions.ofData? (m.value "permissions"))
        (some (networkOf m)) (mappingAt m "tools").withTextKeys
        (mappingAt m "mcp-servers").withTextKeys).map Failure.strict
      = (writeFailure? m).or ((wildcardFailure? m).or
          (((Strict.toolsViolation? (mappingAt m "tools").withTextKeys).map .strict).or
            ((Strict.serversViolation? (mappingAt m "mcp-servers").withTextKeys).map
              .strict))) := by
    rw [Strict.violation?, Option.map_or, Option.map_or, Option.map_or, hpermissions, hwildcard]
  rw [strictFailure?, inStrict, ← hviolation]
  rfl

theorem derivesOverlong_eq (settings : Settings) (asked : Option Bool) (m : Mapping) :
    Policy.derivesOverlong settings asked m
      = (holdsLongNumber m || groupIsOverlong m (m.value "concurrency")
          || groupIsOverlong m (engineOf (m.value "engine")).2) := by
  have hplan : (SafeOutput.Plan.compile settings.trialMode
      (SafeOutput.Block.extract m).block).isOverlong = holdsLongNumber m := by
    have haccepted := SafeOutput.Block.isAccepted_of_mem_extract (m := m)
    rw [holdsLongNumber]
    cases hblock : (SafeOutput.Block.extract m).block with
    | none => rfl
    | some b => exact SafeOutput.Plan.isOverlong_compile _ (haccepted b hblock)
  rw [← hplan]
  rfl

/-- The failure of a compilation is the first of the conditions on the raw values. -/
theorem failure?_eq_firstFailure? (settings : Settings) (asked : Option Bool) (m : Mapping) :
    Policy.failure? settings asked m = firstFailure? settings asked m := by
  have hsandbox : (reading settings asked m).sandbox.bind Sandbox.violation?
      = (Sandbox.request m).violation? :=
    (Sandbox.request m).violation?_sandbox
  have hfirewall : (reading settings asked m).network.firewall.bind Firewall.violation?
      = ((Network.firewallOptions? m).bind Firewall.allowUrlsViolation?).or
          ((Network.firewallOptions? m).bind Firewall.logLevelViolation?) :=
    Firewall.violation?_networkOf m
  rw [Policy.failure?, failure?, readingFailure?, headFailure?, passFailure?, hsandbox,
    hfirewall, Option.map_or, supportFailure?_reading, strictFailure?_reading,
    derivesOverlong_eq, Check.overlong?_or, Check.overlong?_or, firstFailure?, conditions]
  simp only [findSome?_id_cons, List.findSome?_nil, Option.or_none, inStrict_or, Option.or_assoc]

end Workflow

/-- **Exact failure.**  Compilation ends with the error of the first condition that
    holds, and with a policy when none holds. -/
theorem Policy.compile_firstFailure (settings : Settings) (asked : Option Bool) (m : Mapping) :
    match Workflow.firstFailure? settings asked m with
    | some e => (compile settings asked m).outcome = .error e
    | none => ∃ p, (compile settings asked m).outcome = .ok p := by
  rw [compile_guarded, Workflow.failure?_eq_firstFailure?]
  cases Workflow.firstFailure? settings asked m with
  | some e => rfl
  | none => exact ⟨_, rfl⟩

/-- A frontmatter whose tools have a key in bytes. -/
def bytesKeyFrontmatter : Mapping :=
  [(.text "on", .text "push"), (.text "tools", .map [(.bytes [0x68, 0x69], .text "x")])]

/-- A key that is no text is not always refused: bytes that encode one pass as it. -/
theorem Policy.compile_bytesKey :
    ¬ ∀ (settings : Settings) (asked : Option Bool) (m tools : Mapping),
      Workflow.rejectedKind? m = none → m.get? "tools" = some (.map tools) →
        tools.strangeKeys ≠ [] →
          ∃ rs, (compile settings asked m).outcome = .error (.refused rs) := by
  intro h
  have htools : bytesKeyFrontmatter.get? "tools" = some (.map [(.bytes [0x68, 0x69], .text "x")]) :=
    rfl
  have hnone : failure? {} none bytesKeyFrontmatter = none := by decide +kernel
  obtain ⟨rs, hrefused⟩ := h {} none _ _ (by decide +kernel) htools (by decide +kernel)
  rw [compile_guarded, hnone] at hrefused
  cases hrefused

end WorkflowPolicy
