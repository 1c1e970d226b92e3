/-
  WorkflowPolicy/Json/Reader.lean
  ===============================
  **Reading JSON text.**  A text is one value with blanks around it.  Of several
  entries under one key the last value counts, in the place of the first.  Besides
  the numbers of the standard, the three special floating-point values are read
  by name.

  An integer with too many digits is a fault where it stands, be its value kept or not,
  and so is a collection that nests deeper than the reader can follow.
-/
import WorkflowPolicy.Data
import WorkflowPolicy.Decimal.Reader
import WorkflowPolicy.Json.Quoted

namespace WorkflowPolicy.Json

open WorkflowPolicy.Text

/-! ### Faults -/

inductive ReadFault where
  | malformed
  /-- An integer with too many digits. -/
  | overlong (digits : Nat)
  /-- Values in values beyond what the reader can follow. -/
  | tooDeep
deriving DecidableEq, Repr

/-- The text of a fault, for the one that is reported by a text of its own. -/
def ReadFault.message? : ReadFault → Option String
  | .overlong digits => some (tooManyDigits digits)
  | .malformed | .tooDeep => none

/-- What is there, or a malformed text. -/
def expect {α : Type} : Option α → Except ReadFault α
  | some a => .ok a
  | none => .error .malformed

/-! ### Blanks and words -/

def isBlank (c : Char) : Bool := c == ' ' || c == '\t' || c == '\n' || c == '\r'

def skipBlanks (cs : List Char) : List Char := cs.dropWhile isBlank

/-- What follows a word that stands here. -/
def afterWord? (word : String) (cs : List Char) : Option (List Char) :=
  if word.toList.isPrefixOf cs then some (cs.drop word.length) else none

/-! ### Numbers -/

def takeDigits (cs : List Char) : List Char × List Char :=
  (cs.takeWhile isAsciiDigit, cs.dropWhile isAsciiDigit)

/-- The fraction that stands here, with its point; none if no digit follows. -/
def fractionAt (cs : List Char) : List Char × List Char :=
  match cs with
  | '.' :: rest =>
    match takeDigits rest with
    | ([], _) => ([], cs)
    | (digits, rest') => ('.' :: digits, rest')
  | _ => ([], cs)

/-- The exponent that stands here, with its mark; none if no digit follows. -/
def exponentAt (cs : List Char) : List Char × List Char :=
  match cs with
  | c :: rest =>
    if c == 'e' || c == 'E' then
      let sign := match rest with
        | '+' :: _ => ['+']
        | '-' :: _ => ['-']
        | _ => []
      match takeDigits (rest.drop sign.length) with
      | ([], _) => ([], cs)
      | (digits, rest') => (c :: sign ++ digits, rest')
    else ([], cs)
  | [] => ([], cs)

/-- The digits before the point: a zero, or digits that do not start with zero. -/
def wholeAt? : List Char → Option (List Char × List Char)
  | '0' :: rest => some (['0'], rest)
  | cs =>
    match takeDigits cs with
    | ([], _) => none
    | (digits, rest) => some (digits, rest)

/-- The number that stands here: an integer unless it has a fraction or exponent. -/
def numberAt (cs : List Char) : Except ReadFault (Data × List Char) := do
  let (sign, body) := match cs with
    | '-' :: rest => (['-'], rest)
    | _ => ([], cs)
  let (whole, rest) ← expect (wholeAt? body)
  let (fraction, rest) := fractionAt rest
  let (exponent, rest) := exponentAt rest
  if fraction.isEmpty && exponent.isEmpty then
    if hasTooManyDigits whole then throw (.overlong whole.length)
    else return (.int (← expect (integerOf? (sign ++ whole))), rest)
  else return (.float (← expect (Binary64.ofChars? (sign ++ whole ++ fraction ++ exponent))), rest)

/-! ### Values -/

def words : List (String × Data) :=
  [("null", .null), ("true", .bool true), ("false", .bool false), ("NaN", .float .nan),
   ("Infinity", .float (.infinity false)), ("-Infinity", .float (.infinity true))]

def wordAt? (cs : List Char) : Option (Data × List Char) :=
  words.findSome? fun w => (afterWord? w.1 cs).map (w.2, ·)

/-- A key and its value. -/
def entryAt (value : List Char → Except ReadFault (Data × List Char)) (cs : List Char) :
    Except ReadFault ((Data × Data) × List Char) := do
  let (key, rest) ← expect (decode? cs)
  match skipBlanks rest with
  | ':' :: rest => do
    let (v, rest) ← value (skipBlanks rest)
    return ((.text ⟨key⟩, v), rest)
  | _ => throw .malformed

section

variable {α : Type} (close : Char) (item : List Char → Except ReadFault (α × List Char))

/-- One or more items with commas between them, up to the closing character.  Every item
    takes a character, so `steps` bounds their number. -/
def itemsAt : Nat → List Char → Except ReadFault (List α × List Char)
  | 0, _ => throw .malformed
  | steps + 1, cs => do
    let (x, rest) ← item cs
    match skipBlanks rest with
    | [] => throw .malformed
    | c :: rest =>
      if c = close then return ([x], rest)
      else if c = ',' then do
        let (xs, rest) ← itemsAt steps (skipBlanks rest)
        return (x :: xs, rest)
      else throw .malformed

/-- What a collection holds, up to its closing character. -/
def contentAt (steps : Nat) (cs : List Char) : Except ReadFault (List α × List Char) :=
  match skipBlanks cs with
  | [] => throw .malformed
  | c :: rest => if c = close then return ([], rest) else itemsAt close item steps (c :: rest)

end

/-- The value that stands here, without blanks in front, and what follows it.
    Every nested value takes a character, so `steps` bounds the nesting of the text;
    `room` is how many more levels of collections the reader can follow. -/
def valueAt : Nat → Nat → List Char → Except ReadFault (Data × List Char)
  | 0, _, _ => throw .malformed
  | steps + 1, room, cs =>
    match cs, room with
    | '"' :: _, _ => do
      let (codes, rest) ← expect (decode? cs)
      return (.text ⟨codes⟩, rest)
    | '[' :: rest, room + 1 => do
      let (xs, rest) ← contentAt ']' (valueAt steps room) steps rest
      return (.list xs, rest)
    | '\x7b' :: rest, room + 1 => do
      let (es, rest) ← contentAt '\x7d' (entryAt (valueAt steps room)) steps rest
      return (.map (Mapping.ofList es), rest)
    | '[' :: _, 0 | '\x7b' :: _, 0 => throw .tooDeep
    | _, _ =>
      match wordAt? cs with
      | some r => return r
      | none => numberAt cs

/-- The value of a text that may nest down to the given depth. -/
def readWithin (deepest : Nat) (s : String) : Except ReadFault Data := do
  let (d, rest) ← valueAt (s.length + 1) deepest (skipBlanks s.toList)
  if (skipBlanks rest).isEmpty then return d else throw .malformed

/-- The value of a text, however deep it nests: no text nests deeper than it is long. -/
def read (s : String) : Except ReadFault Data := readWithin s.length s

end WorkflowPolicy.Json
