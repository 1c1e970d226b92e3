/-
  WorkflowPolicy/Proofs/Workflow/Parts.lean
  =========================================
  **The parts of a frontmatter.**  The trigger is found under two keys and the safe outputs
  may be written in many ways; every other part stands under a key of its own.  Frontmatters
  with the same parts are read as workflows that differ in their triggers at most
  (`SameParts.reading_eq`), and no check looks at the trigger (`SameParts.failure?_eq`).
-/
import WorkflowPolicy.Proofs.Assoc
import WorkflowPolicy.Proofs.Workflow.Passes

namespace WorkflowPolicy.Workflow

open SafeOutput (Block)

/-- The keys of the parts that are read as they stand. -/
def partKeys : List Text :=
  ["name", "engine", "strict", "permissions", "network", "sandbox", "tools", "mcp-servers",
   "concurrency"]

/-- Two frontmatters with the same parts, whatever their triggers are. -/
structure SameParts (m n : Mapping) : Prop where
  entries : ∀ key ∈ partKeys, m.get? (.text key) = n.get? (.text key)
  safeOutputs : Block.extract m = Block.extract n
  longKeys : Block.isOverlong m = Block.isOverlong n

namespace SameParts

variable {m n : Mapping} (h : SameParts m n)

include h

theorem value_eq (key : Text) (hkey : key ∈ partKeys) : m.value key = n.value key :=
  Mapping.value_congr (h.entries key hkey)

theorem mappingAt_eq (key : Text) (hkey : key ∈ partKeys) :
    mappingAt m key = mappingAt n key := by
  rw [mappingAt, mappingAt, h.value_eq key hkey]

theorem request_eq : Sandbox.request m = Sandbox.request n := by
  rw [Sandbox.request, Sandbox.request, h.value_eq "sandbox" (by decide)]

theorem networkOf_eq : networkOf m = networkOf n := by
  rw [networkOf, networkOf, Network.ofFrontmatter?, Network.ofFrontmatter?,
    h.entries "network" (by decide)]

theorem strictness_eq (settings : Settings) (asked : Option Bool) :
    strictness settings asked m = strictness settings asked n := by
  rw [strictness, strictness, h.value_eq "strict" (by decide)]

/-- The trigger has a place of its own in the workflow. -/
theorem reading_eq (settings : Settings) (asked : Option Bool) :
    reading settings asked m
      = { reading settings asked n with
          trigger := triggerOf m, commands := Trigger.commandNames (triggerOf m) } := by
  have hname := h.value_eq "name" (by decide)
  have hpermissions := h.value_eq "permissions" (by decide)
  have hengine := h.value_eq "engine" (by decide)
  have hconcurrency := h.value_eq "concurrency" (by decide)
  have htools := h.mappingAt_eq "tools" (by decide)
  have hservers := h.mappingAt_eq "mcp-servers" (by decide)
  rw [reading, reading, hname, hpermissions, h.networkOf_eq, h.request_eq, h.safeOutputs, hengine,
    hconcurrency, htools, hservers, h.strictness_eq]

theorem headFailure?_eq : headFailure? m = headFailure? n := by
  have hrejection : rejection? m = rejection? n := by
    rw [rejection?, rejection?, ← head?_rejected, ← head?_rejected, h.safeOutputs]
  have hnetwork : Network.isOverlong m = Network.isOverlong n := by
    rw [Network.isOverlong, Network.isOverlong, h.value_eq "network" (by decide)]
  rw [headFailure?, headFailure?, hrejection, hnetwork, h.longKeys,
    h.value_eq "permissions" (by decide)]

theorem readingFailure?_eq : readingFailure? m = readingFailure? n := by
  have htools : toolRefusals m = toolRefusals n := by
    rw [toolRefusals, toolRefusals, h.mappingAt_eq "tools" (by decide),
      h.mappingAt_eq "mcp-servers" (by decide)]
  rw [readingFailure?, readingFailure?, h.headFailure?_eq, h.request_eq, htools,
    h.value_eq "sandbox" (by decide)]

/-- No check looks at the trigger. -/
theorem failure?_eq (settings : Settings) (asked : Option Bool) :
    failure? settings asked m = failure? settings asked n := by
  rw [failure?, failure?, h.readingFailure?_eq, h.reading_eq]
  rfl

end SameParts

end WorkflowPolicy.Workflow
