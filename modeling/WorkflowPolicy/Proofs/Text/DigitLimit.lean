/-
  WorkflowPolicy/Proofs/Text/DigitLimit.lean
  ==========================================
  **How many digits an integer may have.**  The limit is stated twice, for numbers that
  are put into text (`Decimal.isWritable`) and for texts that are read
  (`hasTooManyDigits`).  Both speak of the same numbers: a decimal text is read exactly
  if its number is written (`hasTooManyDigits_ofInt`), and a numeral that is read, zeros in
  front included, has a number that is written (`IsNumeral.isWritable`).
-/
import WorkflowPolicy.Proofs.Text.Integer

namespace WorkflowPolicy

theorem Decimal.isWritable_iff {n : Int} :
    isWritable n = true ↔ n.natAbs < 10 ^ Text.maxDigits := by
  rw [isWritable, decide_eq_true_eq]
  exact Nat.length_toDigits_le_iff (by decide) (by decide)

/-- The least number that is too long. -/
def Decimal.tooLong : Int := Int.ofNat (Nat.pow 10 Text.maxDigits)

theorem Decimal.isWritable_tooLong : isWritable tooLong = false := by
  rw [Bool.eq_false_iff, ne_eq, isWritable_iff, tooLong, Int.ofNat_eq_natCast,
    Int.natAbs_natCast, Nat.pow_eq]
  generalize 10 ^ Text.maxDigits = bound
  exact Nat.lt_irrefl bound

namespace Text

/-! ### Counting digits -/

theorem IsDigits.countDigits_eq {ds : List Char} {n : Nat} (h : IsDigits ds n) :
    countDigits ds = ds.length := by
  rw [countDigits, List.countP_eq_length]
  intro c hc
  rw [digitValue?_of_isDigit (h.isDigit c hc)]
  rfl

theorem countDigits_minus (ds : List Char) : countDigits ('-' :: ds) = countDigits ds := by
  have hminus : (digitValue? '-').isSome = false := by decide
  rw [countDigits, List.countP_cons_of_neg (by simp [hminus]), countDigits]

theorem ofDigitChars_lt {ds : List Char} (h : ∀ c ∈ ds, c.isDigit = true) (acc : Nat) :
    Nat.ofDigitChars 10 ds acc < (acc + 1) * 10 ^ ds.length := by
  induction ds generalizing acc with
  | nil => simp [Nat.ofDigitChars]
  | cons c ds ih =>
    obtain ⟨hlt, -⟩ := digitChar_of_isDigit (h c List.mem_cons_self)
    have hrest := ih (fun d hd => h d (List.mem_cons_of_mem c hd))
      (10 * acc + (c.toNat - '0'.toNat))
    rw [Nat.ofDigitChars_cons]
    calc _ < (10 * acc + (c.toNat - '0'.toNat) + 1) * 10 ^ ds.length := hrest
      _ ≤ (10 * (acc + 1)) * 10 ^ ds.length := Nat.mul_le_mul_right _ (by omega)
      _ = (acc + 1) * 10 ^ (c :: ds).length := by
        rw [List.length_cons, Nat.pow_succ, Nat.mul_comm 10, Nat.mul_assoc, Nat.mul_comm 10]

theorem IsDigits.lt {ds : List Char} {n : Nat} (h : IsDigits ds n) : n < 10 ^ ds.length := by
  have hlt := ofDigitChars_lt h.isDigit 0
  rwa [h.value, Nat.zero_add, Nat.one_mul] at hlt

/-! ### Numerals -/

/-- A numeral that is read stands for a number that is written. -/
theorem IsNumeral.isWritable {cs : List Char} {n : Int} (h : IsNumeral cs n)
    (hfew : hasTooManyDigits cs = false) : Decimal.isWritable n = true := by
  rw [hasTooManyDigits, decide_eq_false_iff_not, Nat.not_lt] at hfew
  have hpow : ∀ {ds : List Char} {k : Nat}, IsDigits ds k →
      countDigits ds ≤ maxDigits → k < 10 ^ maxDigits := by
    intro ds k hds hcount
    rw [hds.countDigits_eq] at hcount
    exact Nat.lt_of_lt_of_le hds.lt (Nat.pow_le_pow_right (by decide) hcount)
  rw [Decimal.isWritable_iff]
  cases h with
  | plain h => simpa using hpow h hfew
  | minus h =>
    rw [countDigits_minus] at hfew
    simpa using hpow h hfew

/-- Digits are too many exactly if their number is not put into text. -/
theorem hasTooManyDigits_toDigits (n : Int) :
    hasTooManyDigits (Nat.toDigits 10 n.natAbs) = !Decimal.isWritable n := by
  rw [hasTooManyDigits, (isDigits_toDigits n.natAbs).countDigits_eq, Decimal.isWritable,
    ← decide_not, decide_eq_decide, Nat.not_le]

/-- The sign of a decimal text does not count. -/
theorem hasTooManyDigits_ofInt (n : Int) :
    hasTooManyDigits (Decimal.ofInt n).toList = !Decimal.isWritable n := by
  rw [← hasTooManyDigits_toDigits, toList_ofInt, hasTooManyDigits, hasTooManyDigits]
  split
  · rw [List.singleton_append, countDigits_minus]
  · rfl

theorem integer?_ofInt {n : Int} (h : Decimal.isWritable n = true) :
    integer? (Decimal.ofInt n) = some n := by
  rw [integer?, chars?_ofString, Option.bind_some, hasTooManyDigits_ofInt, h, integerOf?_ofInt]
  rfl

end Text

end WorkflowPolicy
