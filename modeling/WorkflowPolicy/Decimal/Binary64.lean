/-
  WorkflowPolicy/Decimal/Binary64.lean
  ====================================
  **Binary floating-point numbers as exact data.**  A number is a sign, a
  mantissa and a power of two (or an infinity, or not a number), so equality,
  truncation and printing are integer arithmetic and can be reasoned about.

  Every rational number has one nearest value here: `ofRatio` rounds a
  non-negative quotient to the nearest representable number, a tie to the even
  mantissa.  Sums and products are rounded from their exact value.
-/

namespace WorkflowPolicy

/-- A binary floating-point number with 53 bits of mantissa.

    A finite number is `± mantissa * 2 ^ exponent`; the constructors of this
    module keep it normal: `mantissa < 2 ^ 53`, `-1074 ≤ exponent ≤ 971`, and
    `2 ^ 52 ≤ mantissa` unless `exponent = -1074`. -/
inductive Binary64 where
  | nan
  | infinity (negative : Bool)
  | finite (negative : Bool) (mantissa : Nat) (exponent : Int)
deriving DecidableEq, Repr, Inhabited

namespace Binary64

/-! ### Limits of the format -/

def minExponent : Int := -1074

def maxExponent : Int := 971

/-- A mantissa stays below this bound, `2 ^ 53`. -/
def mantissaBound : Nat := 0x20000000000000

/-- The least mantissa of a number that is not tiny, `2 ^ 52`. -/
def leastNormal : Nat := 0x10000000000000

def zero (negative : Bool) : Binary64 := .finite negative 0 minExponent

/-! ### Rounding a quotient -/

/-- The quotient `a / b` rounded to the nearest integer, a half to the even
    neighbour. -/
def roundHalfEven (a b : Nat) : Nat :=
  let q := a / b
  let r := a % b
  if b < 2 * r ∨ (2 * r = b ∧ q % 2 = 1) then q + 1 else q

/-- `num / den / 2 ^ e` as a quotient of natural numbers. -/
def scaled (num den : Nat) (e : Int) : Nat × Nat :=
  if 0 ≤ e then (num, den * Nat.pow 2 e.toNat) else (num * Nat.pow 2 (-e).toNat, den)

/-- The exponent of the number nearest to `num / den`: the one for which the
    mantissa has 53 bits, but never below the smallest. -/
def exponentOf (num den : Nat) : Int :=
  let guess := max ((Nat.log2 num : Int) - Nat.log2 den - 53) minExponent
  let (a, b) := scaled num den guess
  if mantissaBound ≤ a / b then guess + 1 else guess

/-- The number nearest to `± num / den`; `den` is positive. -/
def ofRatio (negative : Bool) (num den : Nat) : Binary64 :=
  if num = 0 then zero negative
  else
    let e := exponentOf num den
    let (a, b) := scaled num den e
    let m := roundHalfEven a b
    let (m, e) := if m = mantissaBound then (leastNormal, e + 1) else (m, e)
    if maxExponent < e then .infinity negative
    else if m = 0 then zero negative
    else .finite negative m e

/-- The number nearest to `± digits * 10 ^ e`.  Far outside the range the answer
    is known without computing the power. -/
def ofScientific (negative : Bool) (digits : Nat) (e : Int) : Binary64 :=
  let magnitude := e + (Nat.toDigits 10 digits).length
  if digits = 0 then zero negative
  else if 400 < magnitude then .infinity negative
  else if magnitude < -400 then zero negative
  else if 0 ≤ e then ofRatio negative (digits * Nat.pow 10 e.toNat) 1
  else ofRatio negative digits (Nat.pow 10 (-e).toNat)

def ofInt (n : Int) : Binary64 := ofRatio (decide (n < 0)) n.natAbs 1

/-! ### Arithmetic -/

def neg : Binary64 → Binary64
  | .nan => .nan
  | .infinity s => .infinity (!s)
  | .finite s m e => .finite (!s) m e

/-- The nearest number to `n * 2 ^ e`; `negativeZero` is the sign of an exact
    zero. -/
def ofDyadic (n : Int) (e : Int) (negativeZero : Bool) : Binary64 :=
  if n = 0 then zero negativeZero
  else if 0 ≤ e then ofRatio (decide (n < 0)) (n.natAbs * Nat.pow 2 e.toNat) 1
  else ofRatio (decide (n < 0)) n.natAbs (Nat.pow 2 (-e).toNat)

def signed (negative : Bool) (m : Nat) : Int := if negative then -m else m

/-- The sum, rounded once from its exact value. -/
def add : Binary64 → Binary64 → Binary64
  | .nan, _ | _, .nan => .nan
  | .infinity s, .infinity t => if s = t then .infinity s else .nan
  | .infinity s, .finite .. => .infinity s
  | .finite .., .infinity t => .infinity t
  | .finite s m e, .finite t k f =>
    let low := min e f
    let sum := signed s (m * Nat.pow 2 (e - low).toNat) + signed t (k * Nat.pow 2 (f - low).toNat)
    ofDyadic sum low (s && t)

/-- The product, rounded once from its exact value. -/
def mul : Binary64 → Binary64 → Binary64
  | .nan, _ | _, .nan => .nan
  | .infinity s, .infinity t => .infinity (s != t)
  | .infinity s, .finite t k _ => if k = 0 then .nan else .infinity (s != t)
  | .finite s m _, .infinity t => if m = 0 then .nan else .infinity (s != t)
  | .finite s m e, .finite t k f => ofDyadic (signed (s != t) (m * k)) (e + f) (s != t)

/-! ### Integers among the numbers -/

/-- The integer part, toward zero; only a finite number has one. -/
def truncate? : Binary64 → Option Int
  | .finite s m e =>
    some (signed s (if 0 ≤ e then m * Nat.pow 2 e.toNat else m / Nat.pow 2 (-e).toNat))
  | _ => none

def toInt? : Binary64 → Option Int
  | .finite s m e =>
    if 0 ≤ e then some (signed s (m * Nat.pow 2 e.toNat))
    else if m % Nat.pow 2 (-e).toNat = 0 then some (signed s (m / Nat.pow 2 (-e).toNat))
    else none
  | _ => none

def isFinite : Binary64 → Bool
  | .finite .. => true
  | _ => false

end Binary64

end WorkflowPolicy
