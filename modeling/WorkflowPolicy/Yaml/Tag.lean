/-
  WorkflowPolicy/Yaml/Tag.lean
  ============================
  **What an unquoted YAML scalar means.**  A scalar without quotes and without an
  explicit tag has the type that its spelling belongs to in YAML 1.1: the spellings
  of null, booleans, numbers in four bases and in sixties, floating-point numbers
  and points in time.  Every other spelling is a text.

  The reader uses `Tag.ofPlain` to give a scalar its type; the writer quotes every
  text for which it is not `text`.
-/
import WorkflowPolicy.Text.Escape
import WorkflowPolicy.Text.Integer
import WorkflowPolicy.Text.Parts
import WorkflowPolicy.Yaml.Timestamp

namespace WorkflowPolicy.Yaml

open WorkflowPolicy.Text

inductive Tag where
  | null
  | bool
  | int
  | float
  | timestamp
  | text
  | list
  | map
  /-- Bytes, written as a text in base 64. -/
  | binary
  /-- A mapping whose keys alone count. -/
  | set
  /-- A list of mappings with one entry each, which counts as a list of pairs. -/
  | pairs
  /-- A key that takes over the entries of other mappings. -/
  | merge
  /-- The key of the value that a mapping has where a scalar is asked for. -/
  | default
  /-- Any type that is no data. -/
  | foreign
deriving DecidableEq, Repr

namespace Tag

/-! ### Words -/

def nullWords : List String := ["", "~", "null", "Null", "NULL"]

def boolWords : List String :=
  ["yes", "Yes", "YES", "no", "No", "NO", "true", "True", "TRUE", "false", "False", "FALSE",
   "on", "On", "ON", "off", "Off", "OFF"]

def infinityWords : List String := [".inf", ".Inf", ".INF"]

def nanWords : List String := [".nan", ".NaN", ".NAN"]

/-! ### Parts of numbers -/

def isDigitOrGap (c : Char) : Bool := isAsciiDigit c || c == '_'

/-- A digit, then digits and underscores. -/
def isWhole : List Char → Bool
  | d :: rest => isAsciiDigit d && rest.all isDigitOrGap
  | [] => false

def startsAboveZero : List Char → Bool
  | d :: _ => decide ('1' ≤ d ∧ d ≤ '9')
  | [] => false

def isSixtieth : List Char → Bool
  | [d] => isAsciiDigit d
  | [t, d] => decide ('0' ≤ t ∧ t ≤ '5') && isAsciiDigit d
  | _ => false

/-- A whole number and at least one further place in sixties. -/
def isSexagesimal (cs : List Char) : Bool :=
  match parts ':' cs with
  | first :: second :: rest => isWhole first && (second :: rest).all isSixtieth
  | _ => false

def isExponentOrNothing : List Char → Bool
  | [] => true
  | mark :: sign :: digits =>
    (mark == 'e' || mark == 'E') && (sign == '+' || sign == '-')
      && !digits.isEmpty && digits.all isAsciiDigit
  | _ => false

/-! ### Integers -/

def isBinary : List Char → Bool
  | '0' :: 'b' :: d :: rest => (d :: rest).all fun c => c == '0' || c == '1' || c == '_'
  | _ => false

def isOctal : List Char → Bool
  | '0' :: d :: rest => (d :: rest).all fun c => decide ('0' ≤ c ∧ c ≤ '7') || c == '_'
  | _ => false

def isDecimal (cs : List Char) : Bool := cs == ['0'] || (startsAboveZero cs && isWhole cs)

def isHexadecimal : List Char → Bool
  | '0' :: 'x' :: d :: rest => (d :: rest).all fun c => (hexValue? c).isSome || c == '_'
  | _ => false

/-- The spellings of integers, without their sign. -/
def isUnsignedInteger (cs : List Char) : Bool :=
  isBinary cs || isOctal cs || isDecimal cs || isHexadecimal cs
    || (startsAboveZero cs && isSexagesimal cs)

def isInteger (cs : List Char) : Bool := isUnsignedInteger (splitSign cs).2

/-! ### Floating-point numbers -/

/-- What follows the first point, if there is one. -/
def afterPoint? (cs : List Char) : Option (List Char) :=
  match cs.dropWhile (· != '.') with
  | _ :: rest => some rest
  | [] => none

def beforePoint (cs : List Char) : List Char := cs.takeWhile (· != '.')

/-- Digits on both sides of a point, the right side possibly empty. -/
def isPointed (cs : List Char) : Bool :=
  match afterPoint? cs with
  | some fraction =>
    isWhole (beforePoint cs) && isExponentOrNothing (fraction.dropWhile isDigitOrGap)
  | none => false

def isFraction : List Char → Bool
  | '.' :: d :: rest => isAsciiDigit d && isExponentOrNothing (rest.dropWhile isDigitOrGap)
  | _ => false

/-- A number in sixties with a fraction. -/
def isSexagesimalFloat (cs : List Char) : Bool :=
  match afterPoint? cs with
  | some fraction => isSexagesimal (beforePoint cs) && fraction.all isDigitOrGap
  | none => false

/-- The spellings of floating-point numbers.  A number that starts with its point
    takes no sign. -/
def isFloat (cs : List Char) : Bool :=
  let body := (splitSign cs).2
  isPointed body || isFraction cs || isSexagesimalFloat body
    || infinityWords.contains (String.ofList body) || nanWords.contains (String.ofList cs)

/-! ### The type of a spelling -/

/-- A scalar without the line feed behind it, unless it is nothing else. -/
def withoutLastBreak (cs : List Char) : List Char :=
  match cs.getLast?, cs.dropLast with
  | some '\n', c :: rest => c :: rest
  | _, _ => cs

/-- The type of a scalar that is written without quotes. -/
def ofPlain (cs : List Char) : Tag :=
  let word := String.ofList cs
  if nullWords.contains word then .null
  else if boolWords.contains word then .bool
  else if isInteger cs then .int
  else if isFloat cs then .float
  else if WrittenMoment.isPlain cs then .timestamp
  else if word == "<<" then .merge
  else if word == "=" then .default
  else .text

example : ofPlain "0o17".toList = .text ∧ ofPlain "017".toList = .int ∧
    ofPlain "1:30".toList = .int ∧ ofPlain "1e3".toList = .text ∧
    ofPlain "1.0e+3".toList = .float ∧ ofPlain "2024-05-01".toList = .timestamp := by
  decide +kernel

/-- The type of a scalar that an open tag has read as if it had no quotes.  A line feed
    behind it does not count. -/
def ofOpen (cs : List Char) : Tag := ofPlain (withoutLastBreak cs)

/-! ### Explicit tags -/

/-- What the names of the standard types start with. -/
def standardStart : String := "tag:yaml.org,2002:"

def standardNames : List (String × Tag) :=
  [("null", .null), ("bool", .bool), ("int", .int), ("float", .float), ("str", .text),
   ("seq", .list), ("map", .map), ("binary", .binary), ("set", .set), ("omap", .pairs),
   ("pairs", .pairs), ("timestamp", .timestamp), ("merge", .merge), ("value", .default)]

/-- The type that a full tag names. -/
def ofName (name : String) : Tag :=
  ((standardNames.find? fun e => standardStart ++ e.1 == name).map (·.2)).getD .foreign

def isCollection : Tag → Bool
  | .list | .map | .set | .pairs => true
  | _ => false

def isScalar : Tag → Bool
  | .null | .bool | .int | .float | .timestamp | .text | .binary => true
  | _ => false

end Tag

end WorkflowPolicy.Yaml
