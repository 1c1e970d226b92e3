/-
  WorkflowPolicy/Yaml/BlockScalar.lean
  ====================================
  **Block scalars.**  A bar keeps the line breaks of the indented lines below it; an
  angle folds single breaks between lines that start with no blank.  The header
  may fix the indentation, which is otherwise that of the deepest leading blank
  line or the first line, and says what becomes of the last line breaks.
-/
import WorkflowPolicy.Text.Digit
import WorkflowPolicy.Yaml.Cursor

namespace WorkflowPolicy.Yaml.BlockScalar

open WorkflowPolicy.Text

/-! ### Header -/

/-- What becomes of the line breaks at the end. -/
inductive Chomping where
  | clip
  | strip
  | keep
deriving DecidableEq, Repr

structure Header where
  folded : Bool
  chomping : Chomping := .clip
  /-- The columns by which the lines are deeper, if the header says so. -/
  deeper : Option Nat := none
deriving DecidableEq, Repr

def chomping? : Char → Option Chomping
  | '-' => some .strip
  | '+' => some .keep
  | _ => none

/-- The depth that a digit gives; zero is none. -/
def depth? (c : Char) : Option Nat := (asciiDigit? c).filter (· ≠ 0)

/-- The header that starts after the bar or angle: a chomping mark and a depth, in
    any order, and nothing else on the line. -/
def header? (folded : Bool) (c : Cursor) : Option (Header × Cursor) :=
  let marks := c.rest.takeWhile fun x => (chomping? x).isSome || (asciiDigit? x).isSome
  let header : Option Header :=
    match marks with
    | [] => some { folded := folded }
    | [a] =>
      match chomping? a with
      | some ch => some { folded := folded, chomping := ch }
      | none => (depth? a).map fun n => { folded := folded, deeper := some n }
    | [a, b] =>
      match chomping? a, chomping? b with
      | some ch, none => (depth? b).map fun n => ⟨folded, ch, some n⟩
      | none, some ch => (depth? a).map fun n => ⟨folded, ch, some n⟩
      | _, _ => none
    | _ => none
  let c := c.skip marks.length
  match header with
  | none => none
  | some h => if endsField c.rest then c.restOfLine?.map (h, ·) else none

/-! ### Indentation -/

/-- The largest column that the blanks of some empty lines reach. -/
def deepest (column : Nat) : List Char → Nat
  | [] => 0
  | c :: rest =>
    if c = ' ' then max (column + 1) (deepest (column + 1) rest) else deepest 0 rest

/-- Blanks from here on, up to a column. -/
def skipIndent (indent : Nat) (c : Cursor) : Cursor :=
  c.skip (min (indent - c.column) (c.rest.takeWhile (· == ' ')).length)

/-- The breaks of the empty lines from here on, and the cursor in the first line
    that is not empty, behind its indentation. -/
def emptyLines (indent : Nat) : Nat → Cursor → List Char × Cursor
  | 0, c => ([], c)
  | steps + 1, c =>
    let c := skipIndent indent c
    match c.lineBreak with
    | ([], c) => ([], c)
    | (b, c) =>
      let (breaks, c) := emptyLines indent steps c
      (b ++ breaks, c)

/-! ### Lines -/

/-- The lines from here on as one text, then the last line break, the breaks of the
    empty lines after it and the cursor behind them. -/
structure Body where
  text : List Char
  lastBreak : List Char
  trailing : List Char
  after : Cursor

def startsWithGap (c : Cursor) : Bool := c.peek?.any isSpaceOrTab

/-- What joins two lines: the break, or a blank in its place when both lines are
    folded and nothing lies between them. -/
def joint (folded : Bool) (lineBreak breaks : List Char) : List Char :=
  if folded && lineBreak == ['\n'] then (if breaks.isEmpty then [' '] else []) else lineBreak

def isLineAt (indent : Nat) (c : Cursor) : Bool := c.column == indent && !c.atEnd

/-- Read lines; `before` are the breaks in front of the first one. -/
def lines (folded : Bool) (indent : Nat) : Nat → List Char → Cursor → Body
  | 0, before, c => ⟨[], [], before, c⟩
  | steps + 1, before, c =>
    if isLineAt indent c then
      let plainStart := !startsWithGap c
      let (line, c) := c.span (!isLineBreak ·)
      let (lineBreak, c) := c.lineBreak
      let (breaks, c) := emptyLines indent c.rest.length c
      if isLineAt indent c then
        let rest := lines folded indent steps breaks c
        { rest with
          text := before ++ line
            ++ joint (folded && plainStart && !startsWithGap c) lineBreak breaks ++ rest.text }
      else ⟨before ++ line, lineBreak, breaks, c⟩
    else ⟨[], [], before, c⟩

/-- The text of a body under a chomping rule. -/
def Body.chomped (b : Body) : Chomping → List Char
  | .strip => b.text
  | .clip => b.text ++ b.lastBreak
  | .keep => b.text ++ b.lastBreak ++ b.trailing

/-- The block scalar whose bar or angle was read; its lines stand at `least` or
    deeper. -/
def read? (folded : Bool) (least : Nat) (c : Cursor) : Option (List Char × Cursor) :=
  match header? folded c with
  | none => none
  | some (h, c) =>
    let least := max 1 least
    let steps := c.rest.length + 1
    let body :=
      match h.deeper with
      | some n =>
        let indent := least + n - 1
        let (breaks, c) := emptyLines indent steps c
        lines folded indent steps breaks c
      | none =>
        let (lead, c') := c.span fun x => x == ' ' || isLineBreak x
        let indent := max least (deepest c.column lead)
        lines folded indent steps (lead.filter isLineBreak) c'
    some (body.chomped h.chomping, body.after)

end WorkflowPolicy.Yaml.BlockScalar
