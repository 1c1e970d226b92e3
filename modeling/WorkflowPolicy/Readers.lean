/-
  WorkflowPolicy/Readers.lean
  ===========================
  **The readers of files.**  What a file of YAML or JSON says is decided by two readers
  that need not be those of this library.  Either may fail in ways of its own, among
  them that a text nests too deeply for it.

  `own` is the pair of readers that this library has.
-/
import WorkflowPolicy.Json.Reader
import WorkflowPolicy.Yaml.Reader

namespace WorkflowPolicy

structure Readers where
  yaml : Text → Except Yaml.Fault Document
  json : String → Except Json.ReadFault Data

/-- The readers of this library.  YAML may nest down to the given depth.  A level of YAML
    takes two calls and one of JSON a single call, so JSON may nest twice as deep. -/
def Readers.own (deepest : Nat) : Readers :=
  { yaml := Yaml.document deepest, json := Json.readWithin (2 * deepest) }

end WorkflowPolicy
