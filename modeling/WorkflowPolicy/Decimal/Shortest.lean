/-
  WorkflowPolicy/Decimal/Shortest.lean
  ====================================
  **The fewest decimal digits that read back.**  Each finite number owns an
  interval of reals that round to it.  Among the decimal grids with 1, 2, … 17
  significant digits the first one with a point inside that interval gives the
  digits; of two such points the nearer one is taken, a tie goes to the even
  digit.
-/
import WorkflowPolicy.Decimal.Binary64

namespace WorkflowPolicy.Binary64

/-! ### The interval of a number

All quantities are integers over one common denominator: four times the unit of
the mantissa, so that half a unit and a quarter of a unit are integers too. -/

/-- The reals that round to a positive number, over the denominator `den`. -/
structure Interval where
  low : Nat
  value : Nat
  high : Nat
  den : Nat
  /-- Whether the two ends round to the number as well. -/
  closed : Bool
deriving Repr

/-- The interval of `m * 2 ^ e`.  Below a power of two the neighbour is half as
    far away; the ends belong to the number with the even mantissa. -/
def interval (m : Nat) (e : Int) : Interval :=
  let unit := if 0 ≤ e then Nat.pow 2 e.toNat else 1
  let den := 4 * (if 0 ≤ e then 1 else Nat.pow 2 (-e).toNat)
  let below := if m = leastNormal ∧ minExponent < e then 1 else 2
  { low := (4 * m - below) * unit
    value := 4 * m * unit
    high := (4 * m + 2) * unit
    den := den
    closed := m % 2 = 0 }

def Interval.contains (i : Interval) (a b : Nat) : Bool :=
  if i.closed then
    decide (i.low * b ≤ a * i.den) && decide (a * i.den ≤ i.high * b)
  else
    decide (i.low * b < a * i.den) && decide (a * i.den < i.high * b)

/-! ### Decimal grids -/

/-- The exponent `k` with `10 ^ (k - 1) ≤ num / den < 10 ^ k`, searched upward
    from a lower estimate. -/
def decimalExponent (num den : Nat) : Int :=
  let estimate : Int :=
    ((Nat.toDigits 10 num).length : Int) - (Nat.toDigits 10 den).length
  let fits (k : Int) : Bool :=
    if 0 ≤ k then decide (num < den * Nat.pow 10 k.toNat)
    else decide (num * Nat.pow 10 (-k).toNat < den)
  if fits estimate then estimate else estimate + 1

/-- A point of a decimal grid: the number `digits * 10 ^ exponent`. -/
structure Point where
  digits : Nat
  exponent : Int
deriving Repr, DecidableEq

/-- The point of the grid `10 ^ g` nearest to the value among those that lie in
    the interval. -/
def Interval.pointOn (i : Interval) (g : Int) : Option Point :=
  let (num, den) :=
    if 0 ≤ g then (i.value, i.den * Nat.pow 10 g.toNat)
    else (i.value * Nat.pow 10 (-g).toNat, i.den)
  let inside (n : Nat) : Bool :=
    if 0 ≤ g then i.contains (n * Nat.pow 10 g.toNat) 1
    else i.contains n (Nat.pow 10 (-g).toNat)
  let below := num / den
  let rest := num % den
  let above := below + 1
  let preferAbove := decide (den < 2 * rest) || (decide (2 * rest = den) && below % 2 == 1)
  match inside below, inside above with
  | true, true => some ⟨if preferAbove then above else below, g⟩
  | true, false => some ⟨below, g⟩
  | false, true => some ⟨above, g⟩
  | false, false => none

/-- The shortest digits of the positive number `m * 2 ^ e`.  Seventeen digits
    always suffice, so the last case is never needed. -/
def shortest (m : Nat) (e : Int) : Point :=
  let i := interval m e
  let k := decimalExponent i.value i.den
  match (List.range 17).findSome? fun n => i.pointOn (k - (n + 1 : Nat)) with
  | some p => p
  | none => ⟨m, e⟩

end WorkflowPolicy.Binary64
