/-
  WorkflowPolicy/Yaml/Writer.lean
  ===============================
  **YAML text in block style.**  Entries and items stand on lines of their own, two
  columns deeper per level; a list under a key stands at the column of the key.
  Lines are broken at single blanks once they pass 80 columns, never inside a key.

  A text is written without quotes if it then still reads as a text, else in single
  quotes, and in double quotes with escapes if it has characters that do not show
  or that single quotes would lose.  Bytes are written in base 64 under their tag.
-/
import WorkflowPolicy.Decimal.Layout
import WorkflowPolicy.Text.Base64
import WorkflowPolicy.Yaml.Tag
import WorkflowPolicy.Yaml.Tree

namespace WorkflowPolicy.Yaml

open WorkflowPolicy.Text

/-! ### Layout -/

/-- A line that is longer is broken at the next blank. -/
def lineWidth : Nat := 80

def levelWidth : Nat := 2

/-- Keys that are longer, with the name of their type, stand behind a question
    mark. -/
def keyWidth : Nat := 128

/-- A line break and the blanks up to a column. -/
def newLine (column : Nat) : List Char := '\n' :: List.replicate column ' '

/-- Where a scalar is written. -/
structure Place where
  /-- The column at which the scalar goes on after a line break. -/
  indent : Nat
  /-- The column at which it starts. -/
  column : Nat
  /-- In a key no line is broken. -/
  inKey : Bool := false

namespace Place

def isFull (p : Place) : Bool := !p.inKey && decide (lineWidth < p.column)

def advance (p : Place) (n : Nat) : Place := { p with column := p.column + n }

/-- The place after a line break. -/
def broken (p : Place) : Place := { p with column := p.indent }

end Place

/-! ### Which quotes a text needs -/

def isBreak (c : CodePoint) : Bool :=
  c == '\n' || c == '\x85' || c == '\u2028' || c == '\u2029'

def isPrintableAscii (c : Char) : Bool := decide (' ' ≤ c ∧ c ≤ '~')

/-- The characters with which no plain text starts. -/
def startMarks : List Char :=
  ['#', ',', '[', ']', '\x7b', '\x7d', '&', '*', '!', '|', '>', '\'', '"', '%', '@', '\x60']

/-- Whether a blank or nothing comes first. -/
def startsBlank : List Char → Bool
  | [] => true
  | c :: _ => c == ' '

/-- Whether a plain text would be taken for something else at its start. -/
def startsMarked : List Char → Bool
  | '-' :: '-' :: '-' :: _ => true
  | '.' :: '.' :: '.' :: _ => true
  | c :: rest =>
    startMarks.contains c || ((c == '?' || c == ':' || c == '-') && startsBlank rest)
  | [] => false

/-- Whether a key or a comment would start inside a plain text; `previous` is the
    character before. -/
def hasInnerMark (previous : Char) : List Char → Bool
  | [] => false
  | c :: rest =>
    (c == ':' && startsBlank rest) || (c == '#' && previous == ' ') || hasInnerMark c rest

/-- Whether a text could stand without quotes, whatever it then means. -/
def canBePlain : List Char → Bool
  | [] => false
  | c :: rest =>
    (c :: rest).all isPrintableAscii && c != ' ' && (c :: rest).getLast? != some ' '
      && !startsMarked (c :: rest) && !hasInnerMark c rest

/-- Whether a blank and a line break stand side by side. -/
def hasBlankAtBreak : List Char → Bool
  | a :: b :: rest =>
    (a == ' ' && b == '\n') || (a == '\n' && b == ' ') || hasBlankAtBreak (b :: rest)
  | _ => false

def canBeSingleQuoted (cs : List Char) : Bool :=
  cs.all (fun c => c == '\n' || isPrintableAscii c) && !hasBlankAtBreak cs

inductive Quotes where
  | none
  | single
  | double
deriving DecidableEq, Repr

def quotesFor (inKey : Bool) (cs : List Char) : Quotes :=
  if Tag.ofPlain cs = .text ∧ canBePlain cs = true then .none
  else if canBeSingleQuoted cs && !(inKey && cs.any (isBreak ·)) then .single
  else .double

/-! ### Texts without quotes and in single quotes -/

/-- Whether a line may be broken at a blank: it stands alone between two other
    characters. -/
def isBreakable (previous : Option Char) (rest : List Char) : Bool :=
  previous.isSome && previous != some ' ' && rest.head?.isSome && rest.head? != some ' '

/-- The characters of a text with its lines broken; `mark` is doubled.  A line break
    of the text itself is written as an empty line. -/
def folded (mark : Option Char) (previous : Option Char) (p : Place) : List Char → List Char
  | [] => []
  | c :: rest =>
    if c = ' ' then
      if isBreakable previous rest && p.isFull then
        newLine p.indent ++ folded mark (some c) p.broken rest
      else c :: folded mark (some c) (p.advance 1) rest
    else if c = '\n' then
      let first := if previous = some '\n' then [] else ['\n']
      if rest.head? = some '\n' then first ++ '\n' :: folded mark (some c) p.broken rest
      else first ++ newLine p.indent ++ folded mark (some c) p.broken rest
    else if some c = mark then c :: c :: folded mark (some c) (p.advance 2) rest
    else c :: folded mark (some c) (p.advance 1) rest

def singleQuoted (p : Place) (cs : List Char) : List Char :=
  '\'' :: (folded (some '\'') none (p.advance 1) cs ++ ['\''])

/-! ### Texts in double quotes -/

/-- The letters that stand for characters after a backslash. -/
def letters : List (Char × Char) :=
  [('\x00', '0'), ('\x07', 'a'), ('\x08', 'b'), ('\t', 't'), ('\n', 'n'), ('\x0b', 'v'),
   ('\x0c', 'f'), ('\r', 'r'), ('\x1b', 'e'), ('"', '"'), ('\\', '\\'), ('\x85', 'N'),
   ('\xa0', '_'), ('\u2028', 'L'), ('\u2029', 'P')]

def escape (c : CodePoint) : List Char :=
  match letters.find? (.char ·.1 == c) with
  | some l => ['\\', l.2]
  | none =>
    let (letter, width) := if c.toNat < 0x100 then ('x', 2)
      else if c.toNat < 0x10000 then ('u', 4) else ('U', 8)
    '\\' :: letter :: (hexDigits width c.toNat).map Char.toUpper

/-- The character that a code point is and that needs no escape. -/
def unescaped? (c : CodePoint) : Option Char :=
  c.char?.filter fun c => c != '"' && c != '\\' && isPrintableAscii c

/-- A line break inside double quotes; a blank that follows is kept by a
    backslash. -/
def keptBreak (p : Place) (next : Option CodePoint) : List Char × Place :=
  if next = some (.char ' ') then ('\\' :: newLine p.indent ++ ['\\'], p.broken.advance 1)
  else ('\\' :: newLine p.indent, p.broken)

/-- The characters of a text in double quotes.  A line may be broken before a blank
    and around an escape, but not next to a quote: `first` says that nothing was
    written yet, `escaped` that the code point before was escaped. -/
def doubled (first escaped : Bool) (p : Place) : List CodePoint → List Char
  | [] => []
  | c :: rest =>
    let inside := !first && !rest.isEmpty
    match unescaped? c with
    | none =>
      let e := escape c
      if inside && (p.advance (e.length - 1)).isFull then
        let (line, q) := keptBreak (p.advance e.length) rest.head?
        e ++ line ++ doubled false true q rest
      else e ++ doubled false true (p.advance e.length) rest
    | some x =>
      if inside && (x == ' ' || escaped) && p.isFull then
        let (line, q) := keptBreak p (some c)
        line ++ x :: doubled false false (q.advance 1) rest
      else x :: doubled false false (p.advance 1) rest

def doubleQuoted (p : Place) (s : Text) : List Char :=
  '"' :: (doubled true false (p.advance 1) s.toList ++ ['"'])

/-! ### Scalars -/

/-- A text that has more than characters stands in double quotes. -/
def textChars (p : Place) (s : Text) : List Char :=
  match s.chars? with
  | none => doubleQuoted p s
  | some cs =>
    match quotesFor p.inKey cs with
    | .none => folded none none p cs
    | .single => singleQuoted p cs
    | .double => doubleQuoted p s

/-- Bytes as lines of their own. -/
def bytesChars (p : Place) (bs : List UInt8) : List Char :=
  "!!binary ".toList
    ++ if bs.isEmpty then ['"', '"'] else '|' :: (Base64.lines bs).flatMap (newLine p.indent ++ ·)

/-- A value that is no text and has no items. -/
def word : Data → String
  | .null | .enclosing _ => "null"
  | .bool b => if b then "true" else "false"
  | .int n => Decimal.ofInt n
  | .float x => Decimal.yaml.write x
  | .moment m => m.text
  | .text _ => ""
  | .list _ | .pair _ _ | .bytes _ => "[]"
  | .map _ | .set _ => "\x7b\x7d"

def scalarChars (p : Place) : Data → List Char
  | .text s => textChars p s
  | .bytes bs => bytesChars p bs
  | .moment m => folded none none p m.text.toList
  | d => (word d).toList

/-- The length of the name of a type. -/
def tagWidth : Data → Nat
  | .bool _ | .null => 6
  | .float _ => 7
  | .moment _ => 11
  | _ => 5

/-- Whether a key fits on the line of its value. -/
def isSimpleKey : Data → Bool
  | .text s =>
    s != "" && !s.toList.any isBreak && decide (tagWidth (.text s) + s.toList.length < keyWidth)
  | .bytes _ => false
  | d => decide (tagWidth d + (word d).length < keyWidth)

/-! ### Marks before collections -/

/-- The name of an anchor: its number with at least three digits. -/
def anchorName (n : Nat) : List Char :=
  let digits := (Decimal.ofInt n).toList
  "id".toList ++ List.replicate (3 - digits.length) '0' ++ digits

/-- The anchor and the tag of a collection. -/
def marks (anchor : Option Nat) (isSet : Bool) : List (List Char) :=
  (anchor.map fun n => '&' :: anchorName n).toList ++ if isSet then ["!!set".toList] else []

/-- Marks behind each other, each of them with a blank before it. -/
def spaced (marks : List (List Char)) : List Char := marks.flatMap (' ' :: ·)

/-! ### Collections -/

/-- Blocks under each other at a column. -/
def stack (column : Nat) (blocks : List (List Char)) : List Char :=
  (newLine column).intercalate blocks

/-- Blocks that start where they are, or, if they have marks, under them at a column. -/
def marked (marks : List (List Char)) (under column : Nat) (blocks : Nat → List (List Char)) :
    List Char :=
  if marks.isEmpty then stack column (blocks column)
  else [' '].intercalate marks ++ newLine under ++ stack under (blocks under)

mutual

/-- The lines of a tree with items, the first one without its indentation; any other
    tree as it stands behind a mark.  Under its anchor a list goes to the column
    `under`. -/
def block (under column : Nat) : Tree → List Char
  | .alias n => '*' :: anchorName n
  | .leaf d => scalarChars ⟨column, column, false⟩ d
  | .list anchor [] => [' '].intercalate (marks anchor false ++ [['[', ']']])
  | .list anchor (x :: xs) =>
    marked (marks anchor false) under column fun c => itemBlocks c (x :: xs)
  | .map anchor isSet [] => [' '].intercalate (marks anchor isSet ++ [['\x7b', '\x7d']])
  | .map anchor isSet (e :: es) =>
    marked (marks anchor isSet) column column fun c => entryBlocks c (e :: es)

def itemBlocks (column : Nat) : List Tree → List (List Char)
  | [] => []
  | x :: xs =>
    ('-' :: ' ' :: block (column + levelWidth) (column + levelWidth) x) :: itemBlocks column xs

/-- What stands behind a key and its colon, which end before the place. -/
def valueChars (column : Nat) (p : Place) : Tree → List Char
  | .alias n => ' ' :: '*' :: anchorName n
  | .leaf d => ' ' :: scalarChars (p.advance 1) d
  | .list anchor [] => spaced (marks anchor false ++ [['[', ']']])
  | .list anchor (x :: xs) =>
    spaced (marks anchor false) ++ newLine column ++ stack column (itemBlocks column (x :: xs))
  | .map anchor isSet [] => spaced (marks anchor isSet ++ [['\x7b', '\x7d']])
  | .map anchor isSet (e :: es) =>
    spaced (marks anchor isSet) ++ newLine (column + levelWidth)
      ++ stack (column + levelWidth) (entryBlocks (column + levelWidth) (e :: es))

/-- The entries of a mapping.  The value of a key that is not simple stands behind a
    colon of its own. -/
def entryBlocks (column : Nat) : List (Data × Tree) → List (List Char)
  | [] => []
  | (k, v) :: es =>
    (if isSimpleKey k then
      let key := scalarChars ⟨column + levelWidth, column, true⟩ k
      key ++ ':' :: valueChars column ⟨column + levelWidth, column + key.length + 1, false⟩ v
    else
      '?' :: ' ' :: scalarChars ⟨column + levelWidth, column + levelWidth, false⟩ k
        ++ newLine column ++ ':' :: ' ' :: block column (column + levelWidth) v)
      :: entryBlocks column es

end

def writeTree (t : Tree) : String := String.ofList (block 0 0 t ++ ['\n'])

def write (m : Mapping) : String := writeTree (.ofData (.map m))

end WorkflowPolicy.Yaml
