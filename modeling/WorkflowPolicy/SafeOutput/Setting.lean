/-
  WorkflowPolicy/SafeOutput/Setting.lean
  ======================================
  **Options of safe outputs.**  An option has a rule that reads its raw value into
  a setting or refuses it; a refused value counts as not given.

  Every setting has one written form, `Setting.toData`, and a rule that yields a
  setting yields it again from that form (`Rule.read?_toData`).  The round trips of
  actions and blocks rest on this one law.
-/
import WorkflowPolicy.Templatable

namespace WorkflowPolicy.SafeOutput

inductive Setting where
  | text (s : Text)
  | texts (l : List Text)
  | flag (b : Bool)
  | number (n : Int)
  | template (t : Templatable Bool)
deriving DecidableEq, Repr

/-- How the raw value of an option is read. -/
inductive Rule where
  | text
  | texts
  /-- One text, or the texts of a list. -/
  | participants
  | flag
  /-- A number, cut toward zero. -/
  | number
  /-- A text, or a number in decimal. -/
  | nameOrNumber
  /-- On by being present, with whatever value but false. -/
  | presence
  | template
  | oneOf (options : List Text)
deriving DecidableEq, Repr

namespace Setting

/-- A setting as an author would write it, and as handlers read it. -/
def toData : Setting → Data
  | .text s => .text s
  | .texts l => .ofTexts l
  | .flag b => .bool b
  | .number n => .int n
  | .template t => t.flagData

/-- A setting as it is stored; a templatable boolean is stored as text. -/
def stored : Setting → Data
  | .template t => .text t.flagText
  | s => s.toData

def text? : Setting → Option Text
  | .text s => some s
  | _ => none

def texts? : Setting → Option (List Text)
  | .texts l => some l
  | _ => none

end Setting

def Rule.read? : Rule → Data → Option Setting
  | .text, d => d.text?.map .text
  | .texts, d => d.texts?.map .texts
  | .participants, d => d.participants?.map .texts
  | .flag, d => d.flag?.map .flag
  | .number, d => d.number?.map .number
  | .nameOrNumber, d => d.nameOrNumber?.map .text
  | .presence, d => some (.flag (d != .bool false))
  | .template, d => (Templatable.flag? d).map .template
  | .oneOf options, d => (d.oneOf? options).map .text

/-- Whether a rule would have to put a number into text that is too long for it. -/
def Rule.isOverlong : Rule → Data → Bool
  | .nameOrNumber, d => d.isLongNumber
  | _, _ => false

/-- **A setting reads back.**  What a rule yields it yields again from the written
    form. -/
theorem Rule.read?_toData {r : Rule} {d : Data} {s : Setting} (h : r.read? d = some s) :
    r.read? s.toData = some s := by
  cases r with
  | text =>
    obtain ⟨t, _, rfl⟩ := Option.map_eq_some_iff.mp h
    rfl
  | texts =>
    obtain ⟨l, _, rfl⟩ := Option.map_eq_some_iff.mp h
    simp [read?, Setting.toData]
  | participants =>
    obtain ⟨l, _, rfl⟩ := Option.map_eq_some_iff.mp h
    have : (Data.ofTexts l).participants? = (Data.ofTexts l).texts? := rfl
    simp [read?, Setting.toData, this]
  | flag =>
    obtain ⟨b, _, rfl⟩ := Option.map_eq_some_iff.mp h
    rfl
  | number =>
    obtain ⟨n, _, rfl⟩ := Option.map_eq_some_iff.mp h
    rfl
  | nameOrNumber =>
    obtain ⟨t, _, rfl⟩ := Option.map_eq_some_iff.mp h
    rfl
  | presence =>
    simp only [read?, Option.some.injEq] at h
    subst h
    have : ∀ b : Bool, (Data.bool b != .bool false) = b := by decide
    simp [read?, Setting.toData, this]
  | template =>
    obtain ⟨t, ht, rfl⟩ := Option.map_eq_some_iff.mp h
    simp [read?, Setting.toData, Templatable.flag?_flagData ht]
  | oneOf options =>
    obtain ⟨t, ht, rfl⟩ := Option.map_eq_some_iff.mp h
    have : t ∈ options := by
      cases d <;> simp [Data.oneOf?] at ht
      exact ht.2 ▸ ht.1
    simp [read?, Setting.toData, Data.oneOf?, this]

end WorkflowPolicy.SafeOutput
