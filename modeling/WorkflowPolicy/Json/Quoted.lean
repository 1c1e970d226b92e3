/-
  WorkflowPolicy/Json/Quoted.lean
  ===============================
  **JSON strings in ASCII.**  `encode` writes a text between double quotes: the two
  characters that the quoting needs are escaped, controls and everything outside
  ASCII are written by code point, beyond the basic plane as a pair of units.

  `decode` reads such a string, and any other that JSON allows, up to its closing
  quote.  A unit that stands alone is kept, and a pair of units is one character: a
  text with two halves side by side does not come back from its string.
-/
import WorkflowPolicy.Text.Escape

namespace WorkflowPolicy.Json

open WorkflowPolicy.Text

/-! ### Writing -/

/-- The two units of a character beyond the basic plane. -/
def unitPair (n : Nat) : Nat × Nat :=
  (0xD800 + (n - 0x10000) / 0x400, 0xDC00 + (n - 0x10000) % 0x400)

def encodeChar (c : Char) : List Char :=
  if c = '"' then ['\\', '"']
  else if c = '\\' then ['\\', '\\']
  else if c = '\n' then ['\\', 'n']
  else if c = '\r' then ['\\', 'r']
  else if c = '\t' then ['\\', 't']
  else if c = '\x0c' then ['\\', 'f']
  else if c = '\x08' then ['\\', 'b']
  else if 0x20 ≤ c.toNat ∧ c.toNat < 0x7F then [c]
  else if c.toNat < 0x10000 then hexEscape 'u' 4 c.toNat
  else
    let (high, low) := unitPair c.toNat
    hexEscape 'u' 4 high ++ hexEscape 'u' 4 low

/-- One code point of a string; half a pair is written as a unit. -/
def encodeCode : CodePoint → List Char
  | .char c => encodeChar c
  | c => hexEscape 'u' 4 c.toNat

def encodeCodes (cs : List CodePoint) : List Char := '"' :: (cs.flatMap encodeCode ++ ['"'])

def encode (s : Text) : String := String.ofList (encodeCodes s.toList)

/-! ### Reading -/

/-- The character that a letter stands for after a backslash. -/
def shortEscape? : Char → Option Char
  | '"' => some '"'
  | '\\' => some '\\'
  | '/' => some '/'
  | 'b' => some '\x08'
  | 'f' => some '\x0c'
  | 'n' => some '\n'
  | 'r' => some '\r'
  | 't' => some '\t'
  | _ => none

def isHighUnit (n : Nat) : Bool := decide (0xD800 ≤ n) && decide (n < 0xDC00)

def isLowUnit (n : Nat) : Bool := decide (0xDC00 ≤ n) && decide (n < 0xE000)

def joinUnits (high low : Nat) : Nat := 0x10000 + (high - 0xD800) * 0x400 + (low - 0xDC00)

/-- The unit written by four hexadecimal digits. -/
def unitAt? : List Char → Option (Nat × List Char)
  | a :: b :: c :: d :: rest => (hexNumber? [a, b, c, d]).map (·, rest)
  | _ => none

/-- The code point of a unit and what follows it, where a low unit may complete a
    high one. -/
def unitCode (n : Nat) (rest : List Char) : CodePoint × List Char :=
  if isHighUnit n then
    match rest with
    | '\\' :: 'u' :: more =>
      match unitAt? more with
      | some (low, rest') =>
        if isLowUnit low then (.ofNat (joinUnits n low), rest') else (.ofNat n, rest)
      | none => (.ofNat n, rest)
    | _ => (.ofNat n, rest)
  else (.ofNat n, rest)

/-- One code point of a string and what follows it.  Controls may not stand in a
    string as they are. -/
def decodeCode? : List Char → Option (CodePoint × List Char)
  | '\\' :: 'u' :: rest => (unitAt? rest).map fun u => unitCode u.1 u.2
  | '\\' :: c :: rest => (shortEscape? c).map (.char ·, rest)
  | c :: rest => if c = '\\' ∨ c.toNat < 0x20 then none else some (.char c, rest)
  | [] => none

/-- The code points up to the closing quote, and what follows it.  Every step takes
    at least one character, so as many steps as characters suffice. -/
def decodeBody? : Nat → List Char → Option (List CodePoint × List Char)
  | _, '"' :: rest => some ([], rest)
  | 0, _ => none
  | steps + 1, cs =>
    match decodeCode? cs with
    | some (c, rest) => (decodeBody? steps rest).map fun r => (c :: r.1, r.2)
    | none => none

def decode? : List Char → Option (List CodePoint × List Char)
  | '"' :: rest => decodeBody? rest.length rest
  | _ => none

end WorkflowPolicy.Json
