/-
  WorkflowPolicy/Text/Base64.lean
  ===============================
  **Bytes as text in base 64.**  Four digits of six bits stand for three bytes.  A
  last group of two or three digits is filled up with padding and stands for one or
  two bytes.

  Reading is lenient: characters that are no digits are skipped, and so is padding
  where no group could end.  Padding that fills up a group ends the text.
-/

namespace WorkflowPolicy.Text.Base64

/-! ### Digits -/

def padding : Char := '='

def digit? (c : Char) : Option Nat :=
  if 'A' ≤ c ∧ c ≤ 'Z' then some (c.toNat - 'A'.toNat)
  else if 'a' ≤ c ∧ c ≤ 'z' then some (c.toNat - 'a'.toNat + 26)
  else if '0' ≤ c ∧ c ≤ '9' then some (c.toNat - '0'.toNat + 52)
  else if c = '+' then some 62
  else if c = '/' then some 63
  else none

def digitOf (n : Nat) : Char :=
  if n < 26 then Char.ofNat ('A'.toNat + n)
  else if n < 52 then Char.ofNat ('a'.toNat + (n - 26))
  else if n < 62 then Char.ofNat ('0'.toNat + (n - 52))
  else if n = 62 then '+'
  else '/'

/-! ### Reading -/

/-- The bytes of the digits of a group.  Bits that fill no byte are dropped. -/
def bytesOf : List Nat → List UInt8
  | a :: b :: rest =>
    UInt8.ofNat (4 * a + b / 16)
      :: match rest with
        | [] => []
        | c :: rest =>
          UInt8.ofNat (16 * (b % 16) + c / 4)
            :: match rest with
              | [] => []
              | d :: _ => [UInt8.ofNat (64 * (c % 4) + d)]
  | _ => []

/-- The bytes from here on, after the digits of a group that has begun and the padding
    behind them. -/
def bytesFrom? (group : List Nat) (pads : Nat) : List Char → Option (List UInt8)
  | [] => if group.isEmpty then some [] else none
  | c :: rest =>
    if c = padding then
      if group.length < 2 then bytesFrom? group pads rest
      else if 4 ≤ group.length + pads + 1 then some (bytesOf group)
      else bytesFrom? group (pads + 1) rest
    else
      match digit? c with
      | none => bytesFrom? group pads rest
      | some d =>
        if group.length < 3 then bytesFrom? (group ++ [d]) 0 rest
        else (bytesFrom? [] 0 rest).map (bytesOf (group ++ [d]) ++ ·)

def decode? (cs : List Char) : Option (List UInt8) := bytesFrom? [] 0 cs

/-! ### Writing -/

def encode : List UInt8 → List Char
  | a :: b :: c :: rest =>
    let n := 65536 * a.toNat + 256 * b.toNat + c.toNat
    digitOf (n / 262144) :: digitOf (n / 4096 % 64) :: digitOf (n / 64 % 64) :: digitOf (n % 64)
      :: encode rest
  | [a, b] =>
    let n := 256 * a.toNat + b.toNat
    [digitOf (n / 1024), digitOf (n / 16 % 64), digitOf (4 * (n % 16)), padding]
  | [a] => [digitOf (a.toNat / 4), digitOf (16 * (a.toNat % 4)), padding, padding]
  | [] => []

/-- How many bytes stand on a line. -/
def lineBytes : Nat := 57

/-- The lines of bytes; `count` bounds their number. -/
def linesWithin : Nat → List UInt8 → List (List Char)
  | 0, _ => []
  | _ + 1, [] => []
  | count + 1, bs => encode (bs.take lineBytes) :: linesWithin count (bs.drop lineBytes)

def lines (bs : List UInt8) : List (List Char) := linesWithin bs.length bs

example : decode? "aGVs\nbG8=".toList = some [104, 101, 108, 108, 111] ∧
    encode [104, 101, 108, 108, 111] = "aGVsbG8=".toList ∧
    decode? "aGVsb".toList = none ∧ decode? "QQ=".toList = none := by decide +kernel

end WorkflowPolicy.Text.Base64
