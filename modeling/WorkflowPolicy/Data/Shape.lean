/-
  WorkflowPolicy/Data/Shape.lean
  ==============================
  **Reading a value in an expected shape.**  Frontmatter is written by hand, so
  every reader is total: it returns the value in the shape asked for, or nothing
  when the value has another shape.  Lists and mappings are sifted: items of the
  wrong shape are left out.
-/
import WorkflowPolicy.Data.Display

namespace WorkflowPolicy

namespace Data

/-! ### Scalars -/

def text? : Data → Option Text
  | .text s => some s
  | _ => none

theorem text?_eq_some {d : Data} {s : Text} : d.text? = some s ↔ d = .text s := by
  cases d <;> simp [text?]

/-- A boolean; numbers that equal one do not count. -/
def flag? : Data → Option Bool
  | .bool b => some b
  | _ => none

/-- An integer, or a finite floating-point number cut toward zero; a boolean is
    no number. -/
def number? : Data → Option Int
  | .int n => some n
  | .float x => x.truncate?
  | _ => none

/-- Whether a value is a number with too many digits to be put into text. -/
def isLongNumber (d : Data) : Bool := d.number?.any fun n => !Decimal.isWritable n

/-- A number in decimal, or a text as it is. -/
def nameOrNumber? (d : Data) : Option Text :=
  match d.number? with
  | some n => some (Decimal.ofInt n)
  | none => d.text?

def oneOf? (options : List Text) : Data → Option Text
  | .text s => if s ∈ options then some s else none
  | _ => none

/-! ### Collections -/

def texts? : Data → Option (List Text)
  | .list xs => some (xs.filterMap text?)
  | _ => none

/-- One name, or the names of a list. -/
def participants? : Data → Option (List Text)
  | .text s => some [s]
  | d => d.texts?

def entries? : Data → Option Mapping
  | .map es => some es
  | _ => none

/-- The text values of a mapping under the displayed forms of their keys.  Keys
    that are displayed alike are one key. -/
def textMap? : Data → Option (Fields Text)
  | .map es => some (Fields.ofList (es.filterMap fun e => (e.2.text?).map (e.1.display, ·)))
  | _ => none

/-- Whether a key that would be displayed in `textMap?` cannot be shown. -/
def hasLongKey : Data → Bool
  | .map es => es.any fun e => e.2.text?.isSome && !e.1.isShowable
  | _ => false

/-! ### What the readers leave alone -/

@[simp] theorem texts?_ofTexts (l : List Text) : (ofTexts l).texts? = some l := by
  simp [ofTexts, texts?, List.filterMap_map, Function.comp_def, text?]

theorem textMap?_ofTextFields {m : Fields Text} (h : Assoc.Distinct id m) :
    (ofTextFields m).textMap? = some m := by
  simp [ofTextFields, textMap?, List.filterMap_map, Function.comp_def, text?, Fields.ofList,
    Assoc.ofList_of_distinct id h]

end Data

end WorkflowPolicy
