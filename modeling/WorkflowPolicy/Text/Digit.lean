/-
  WorkflowPolicy/Text/Digit.lean
  ==============================
  **Decimal digits of all scripts.**  Unicode lists its decimal digits in blocks
  of ten, zero first; a table of the zeros is the whole property.

  An integer is put into decimal text and read from it only up to a number of
  digits (`maxDigits`).  Other bases and floating-point numbers have no such limit.
-/

namespace WorkflowPolicy.Text

/-- The code points of the zeros, in order. -/
def digitZeros : List Nat :=
  [0x0030, 0x0660, 0x06F0, 0x07C0, 0x0966, 0x09E6, 0x0A66, 0x0AE6, 0x0B66, 0x0BE6, 0x0C66,
   0x0CE6, 0x0D66, 0x0DE6, 0x0E50, 0x0ED0, 0x0F20, 0x1040, 0x1090, 0x17E0, 0x1810, 0x1946,
   0x19D0, 0x1A80, 0x1A90, 0x1B50, 0x1BB0, 0x1C40, 0x1C50, 0xA620, 0xA8D0, 0xA900, 0xA9D0,
   0xA9F0, 0xAA50, 0xABF0, 0xFF10, 0x104A0, 0x10D30, 0x11066, 0x110F0, 0x11136, 0x111D0,
   0x112F0, 0x11450, 0x114D0, 0x11650, 0x116C0, 0x11730, 0x118E0, 0x11950, 0x11C50, 0x11D50,
   0x11DA0, 0x16A60, 0x16AC0, 0x16B50, 0x1D7CE, 0x1D7D8, 0x1D7E2, 0x1D7EC, 0x1D7F6, 0x1E140,
   0x1E2F0, 0x1E950, 0x1FBF0]

/-- The value of a decimal digit of any script. -/
def digitValue? (c : Char) : Option Nat :=
  (digitZeros.find? fun z => decide (z ≤ c.toNat) && decide (c.toNat < z + 10)).map
    fun z => c.toNat - z

def asciiDigit? (c : Char) : Option Nat :=
  if '0' ≤ c ∧ c ≤ '9' then some (c.toNat - '0'.toNat) else none

def isAsciiDigit (c : Char) : Bool := (asciiDigit? c).isSome

theorem digitValue_of_ascii {c : Char} {n : Nat} (h : asciiDigit? c = some n) :
    digitValue? c = some n := by
  simp only [asciiDigit?] at h
  split at h
  · rename_i hc
    have hlow : 48 ≤ c.toNat := UInt32.le_iff_toNat_le.mp (Char.le_def.mp hc.1)
    have hhigh : c.toNat ≤ 57 := UInt32.le_iff_toNat_le.mp (Char.le_def.mp hc.2)
    have : digitValue? c = some (c.toNat - 48) := by
      simp [digitValue?, digitZeros, hlow, Nat.lt_succ_of_le hhigh]
    rw [this]
    simpa using h
  · simp at h

/-! ### The limit -/

/-- The most digits of an integer in decimal text. -/
def maxDigits : Nat := 4300

def countDigits (cs : List Char) : Nat := cs.countP fun c => (digitValue? c).isSome

/-- Whether a text has more digits than are read.  Zeros in front count. -/
def hasTooManyDigits (cs : List Char) : Bool := decide (maxDigits < countDigits cs)

/-- What is said of an integer that cannot be put into text. -/
def overlongMessage : String :=
  "Exceeds the limit (4300 digits) for integer string conversion; "
    ++ "use sys.set_int_max_str_digits() to increase the limit"

/-- What is said of an integer that cannot be read from text. -/
def tooManyDigits (digits : Nat) : String :=
  "Exceeds the limit (4300 digits) for integer string conversion: value has "
    ++ toString digits ++ " digits; use sys.set_int_max_str_digits() to increase the limit"

end WorkflowPolicy.Text
