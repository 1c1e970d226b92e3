/-
  WorkflowPolicy/Yaml/QuotedScalar.lean
  =====================================
  **Scalars in quotes.**  In single quotes a doubled quote is a quote; in double
  quotes a backslash starts an escape.  A line break in quotes is folded: the blanks
  around it vanish, one break becomes a blank and every further one stays.
-/
import WorkflowPolicy.Text.Escape
import WorkflowPolicy.Yaml.Cursor
import WorkflowPolicy.Yaml.Fault

namespace WorkflowPolicy.Yaml.QuotedScalar

open WorkflowPolicy.Text

/-! ### Escapes -/

def shortEscapes : List (Char × Char) :=
  [('0', '\x00'), ('a', '\x07'), ('b', '\x08'), ('t', '\t'), ('\t', '\t'), ('n', '\n'),
   ('v', '\x0b'), ('f', '\x0c'), ('r', '\r'), ('e', '\x1b'), (' ', ' '), ('"', '"'),
   ('\\', '\\'), ('/', '/'), ('N', '\x85'), ('_', '\xa0'), ('L', '\u2028'), ('P', '\u2029')]

/-- The number of hexadecimal digits that follow a letter. -/
def hexWidth? : Char → Option Nat
  | 'x' => some 2
  | 'u' => some 4
  | 'U' => some 8
  | _ => none

/-- A code point by its number.  The halves of a surrogate pair count on their own, also
    where two of them follow each other. -/
def codeOf (n : Nat) : Except Fault CodePoint :=
  if 0x10FFFF < n then .error (.notCharacter n) else .ok (.ofNat n)

/-- The code point of the escape whose letter stands here. -/
def escapeAt (c : Cursor) : Except Fault (CodePoint × Cursor) :=
  match c.rest with
  | [] => .error .malformed
  | x :: rest =>
    match shortEscapes.find? (·.1 == x) with
    | some e => .ok (.char e.2, c.next)
    | none => do
      let width ← expect (hexWidth? x)
      if rest.length < width then throw .malformed
      let n ← expect (hexNumber? (rest.take width))
      return (← codeOf n, c.skip (width + 1))

/-! ### Line breaks -/

/-- The breaks of the empty lines from here on, and the cursor at the text after
    them.  No document may start inside quotes. -/
def emptyLines : Nat → Cursor → Except Fault (List Char × Cursor)
  | 0, _ => .error .malformed
  | steps + 1, c =>
    if isDocumentMark c.rest then .error .malformed
    else
      let c := c.skipWhile isSpaceOrTab
      match c.lineBreak with
      | ([], c) => .ok ([], c)
      | (b, c) => do
        let (breaks, c) ← emptyLines steps c
        return (b ++ breaks, c)

/-- What one line break and the breaks after it become. -/
def foldBreaks (lineBreak breaks : List Char) : List Char :=
  if lineBreak = ['\n'] then (if breaks.isEmpty then [' '] else breaks) else lineBreak ++ breaks

/-- The blanks and line breaks from here on as they count. -/
def gapAt (c : Cursor) : Except Fault (List Char × Cursor) := do
  let (blanks, c) := c.span isSpaceOrTab
  match c.lineBreak with
  | ([], c) => return (blanks, c)
  | (b, c) =>
    let (breaks, c) ← emptyLines (c.rest.length + 1) c
    return (foldBreaks b breaks, c)

/-! ### Contents -/

def quoteOf (double : Bool) : Char := if double then '"' else '\''

/-- The code points up to the closing quote, and the cursor after it.  Every step
    reads a character, so as many steps as characters suffice. -/
def bodyAt (double : Bool) : Nat → Cursor → Except Fault (List CodePoint × Cursor)
  | 0, _ => .error .malformed
  | steps + 1, c =>
    match c.rest with
    | [] => .error .malformed
    | x :: rest =>
      if x = quoteOf double then
        if !double && rest.head? == some '\'' then do
          let (cs, c) ← bodyAt double steps (c.skip 2)
          return (.char x :: cs, c)
        else .ok ([], c.next)
      else if double && x == '\\' then
        if rest.head?.any isLineBreak then do
          let (breaks, c) ← emptyLines c.rest.length (c.skip 2)
          let (cs, c) ← bodyAt double steps c
          return (breaks.map .char ++ cs, c)
        else do
          let (e, c) ← escapeAt c.next
          let (cs, c) ← bodyAt double steps c
          return (e :: cs, c)
      else if isGap x then do
        let (gap, c) ← gapAt c
        let (cs, c) ← bodyAt double steps c
        return (gap.map .char ++ cs, c)
      else do
        let (cs, c) ← bodyAt double steps c.next
        return (.char x :: cs, c)

def read (double : Bool) (c : Cursor) : Except Fault (Text × Cursor) :=
  (bodyAt double (c.rest.length + 1) c).map fun r => (⟨r.1⟩, r.2)

end WorkflowPolicy.Yaml.QuotedScalar
