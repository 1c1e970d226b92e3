/-
  WorkflowPolicy/Yaml/Cursor.lean
  ===============================
  **A place in a YAML text.**  A cursor holds the characters that are still to be
  read and where they stand, because columns decide how YAML nests.

  All line ends of a text are line feeds here, except for the two Unicode
  separators, which end a line and are kept in scalars.
-/

namespace WorkflowPolicy.Yaml

/-! ### Characters -/

def isLineBreak (c : Char) : Bool := c == '\n' || c == '\u2028' || c == '\u2029'

def isSpaceOrTab (c : Char) : Bool := c == ' ' || c == '\t'

def isGap (c : Char) : Bool := isSpaceOrTab c || isLineBreak c

/-- Whether a gap or the end of the text comes next. -/
def endsWord : List Char → Bool
  | [] => true
  | c :: _ => isGap c

/-- Whether a line break or the end of the text comes next. -/
def endsLine : List Char → Bool
  | [] => true
  | c :: _ => isLineBreak c

/-- Whether a blank, a line break or the end of the text comes next. -/
def endsField : List Char → Bool
  | [] => true
  | c :: _ => c == ' ' || isLineBreak c

/-- Whether a mark that separates documents stands here. -/
def isDocumentMark : List Char → Bool
  | a :: b :: c :: rest => a == b && b == c && (a == '-' || a == '.') && endsWord rest
  | _ => false

/-- The mark that some editors put in front of a text; it takes no column. -/
def byteOrderMark : Char := '\ufeff'

/-! ### Cursors -/

structure Cursor where
  rest : List Char
  line : Nat := 0
  column : Nat := 0
  index : Nat := 0
deriving DecidableEq, Repr

namespace Cursor

def next (c : Cursor) : Cursor :=
  match c.rest with
  | [] => c
  | x :: rest =>
    if isLineBreak x then ⟨rest, c.line + 1, 0, c.index + 1⟩
    else if x = byteOrderMark then ⟨rest, c.line, c.column, c.index + 1⟩
    else ⟨rest, c.line, c.column + 1, c.index + 1⟩

def skip : Nat → Cursor → Cursor
  | 0, c => c
  | n + 1, c => skip n c.next

/-- The characters from here on that satisfy a condition, and the cursor after
    them. -/
def span (p : Char → Bool) (c : Cursor) : List Char × Cursor :=
  let taken := c.rest.takeWhile p
  (taken, c.skip taken.length)

def skipWhile (p : Char → Bool) (c : Cursor) : Cursor := (c.span p).2

def peek? (c : Cursor) : Option Char := c.rest.head?

def atEnd (c : Cursor) : Bool := c.rest.isEmpty

/-- The line break that stands here, if one does, and the cursor after it. -/
def lineBreak (c : Cursor) : List Char × Cursor :=
  match c.rest with
  | x :: _ => if isLineBreak x then ([x], c.next) else ([], c)
  | [] => ([], c)

/-- The rest of a line that may hold only blanks and a comment. -/
def restOfLine? (c : Cursor) : Option Cursor :=
  let c := c.skipWhile (· == ' ')
  let c := if c.peek? == some '#' then c.skipWhile (!isLineBreak ·) else c
  if endsLine c.rest then some c.lineBreak.2 else none

end Cursor

end WorkflowPolicy.Yaml
