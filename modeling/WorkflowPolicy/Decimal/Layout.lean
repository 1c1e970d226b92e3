/-
  WorkflowPolicy/Decimal/Layout.lean
  ==================================
  **How a number is laid out as text.**  The digits come from
  `Binary64.shortest`; a `Layout` record decides where positional notation ends,
  how the exponent is written and what the special values are called.  The
  formats of this library differ only in their record.
-/
import WorkflowPolicy.Decimal.Shortest
import WorkflowPolicy.Text.Digit

namespace WorkflowPolicy

namespace Decimal

def ofInt (n : Int) : String :=
  if n < 0 then "-" ++ String.ofList (Nat.toDigits 10 n.natAbs)
  else String.ofList (Nat.toDigits 10 n.natAbs)

/-- Whether an integer has few enough digits to be put into text.  The text is
    `ofInt` then; where a longer number would be needed, the computation fails. -/
def isWritable (n : Int) : Bool :=
  decide ((Nat.toDigits 10 n.natAbs).length ≤ Text.maxDigits)

/-- The decisions of one notation for floating-point numbers. -/
structure Layout where
  /-- Positional notation serves the exponents from `positionalFrom` … -/
  positionalFrom : Int
  /-- … up to but not including `positionalTo`. -/
  positionalTo : Int
  /-- Exponents have at least this many digits. -/
  exponentWidth : Nat
  /-- Whether a mantissa of one digit gets a fraction before an exponent. -/
  fractionBeforeExponent : Bool
  nan : String
  infinity : String
  negativeInfinity : String

def padLeft (width : Nat) (digits : List Char) : List Char :=
  List.replicate (width - digits.length) '0' ++ digits

/-- The digits of a point without trailing zeros, and the exponent of the first
    digit in scientific notation. -/
def significant (p : Binary64.Point) : List Char × Int :=
  let all := Nat.toDigits 10 p.digits
  let kept := (all.reverse.dropWhile (· == '0')).reverse
  (if kept.isEmpty then ['0'] else kept, p.exponent + all.length - 1)

/-- Digits with the point in positional notation; a whole number ends in `.0`. -/
def positional (digits : List Char) (e : Int) : List Char :=
  if e < 0 then
    ['0', '.'] ++ List.replicate (-e - 1).toNat '0' ++ digits
  else
    let whole := e.toNat + 1
    let front := digits.take whole ++ List.replicate (whole - digits.length) '0'
    let back := digits.drop whole
    front ++ ['.'] ++ (if back.isEmpty then ['0'] else back)

def Layout.scientific (l : Layout) (digits : List Char) (e : Int) : List Char :=
  let mantissa :=
    match digits with
    | [] => []
    | [d] => if l.fractionBeforeExponent then [d, '.', '0'] else [d]
    | d :: ds => d :: '.' :: ds
  let mark := if e < 0 then ['e', '-'] else ['e', '+']
  mantissa ++ mark ++ padLeft l.exponentWidth (Nat.toDigits 10 e.natAbs)

def Layout.magnitude (l : Layout) (m : Nat) (e : Int) : List Char :=
  if m = 0 then ['0', '.', '0']
  else
    let (digits, x) := significant (Binary64.shortest m e)
    if l.positionalFrom ≤ x ∧ x < l.positionalTo then positional digits x
    else l.scientific digits x

def Layout.write (l : Layout) : Binary64 → String
  | .nan => l.nan
  | .infinity false => l.infinity
  | .infinity true => l.negativeInfinity
  | .finite s m e => String.ofList ((if s then ['-'] else []) ++ l.magnitude m e)

/-- The notation of values shown in messages and of mapping keys: positional
    from `0.0001` up to below `10 ^ 16`. -/
def plain : Layout :=
  { positionalFrom := -4
    positionalTo := 16
    exponentWidth := 2
    fractionBeforeExponent := false
    nan := "nan"
    infinity := "inf"
    negativeInfinity := "-inf" }

/-- The notation of JSON text, where the special values have long names. -/
def json : Layout :=
  { plain with nan := "NaN", infinity := "Infinity", negativeInfinity := "-Infinity" }

/-- The notation of YAML text: an exponent always follows a fraction, and the
    special values start with a point. -/
def yaml : Layout :=
  { plain with
    fractionBeforeExponent := true
    nan := ".nan"
    infinity := ".inf"
    negativeInfinity := "-.inf" }

end Decimal

end WorkflowPolicy
