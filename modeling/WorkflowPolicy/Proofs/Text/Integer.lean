/-
  WorkflowPolicy/Proofs/Text/Integer.lean
  =======================================
  **Numbers and their digits.**  A numeral is a minus sign or nothing and one or more
  ASCII digits (`IsNumeral`); it is canonical when no zero stands in front and no minus
  sign before a zero (`IsCanonical`).  Every numeral is read as its number
  (`IsNumeral.integerOf?_eq`), the digit strings are the numerals
  (`digitString?_eq_some`), and an integer has one canonical numeral, its decimal text
  (`isCanonical_iff`).

  The hexadecimal digits of a character code, padded to four, are read as that code
  (`hexNumber?_hexDigits`).  The digits of a number are written from the last one on, so
  the proofs about written digits peel the last digit off.
-/
import Mathlib.Algebra.Group.Nat.Defs
import Mathlib.Data.List.Induction
import WorkflowPolicy.Decimal.Layout
import WorkflowPolicy.Text.Escape
import WorkflowPolicy.Text.Integer

namespace WorkflowPolicy.Text

/-! ### Decimal digits -/

theorem isAsciiDigit_eq_isDigit (c : Char) : isAsciiDigit c = c.isDigit := by
  rw [Bool.eq_iff_iff, isAsciiDigit, asciiDigit?]
  simp only [Char.isDigit, Char.le_def, Bool.and_eq_true, decide_eq_true_eq]
  split
  · rename_i h
    exact iff_of_true rfl h
  · rename_i h
    exact iff_of_false Bool.false_ne_true h

theorem isDigit_bounds {c : Char} (h : c.isDigit = true) :
    '0'.toNat ≤ c.toNat ∧ c.toNat ≤ '9'.toNat := by
  rw [Char.isDigit, Bool.and_eq_true, decide_eq_true_eq, decide_eq_true_eq] at h
  exact ⟨UInt32.le_iff_toNat_le.mp h.1, UInt32.le_iff_toNat_le.mp h.2⟩

theorem digitValue?_of_isDigit {c : Char} (h : c.isDigit = true) :
    digitValue? c = some (c.toNat - '0'.toNat) := by
  rw [Char.isDigit, Bool.and_eq_true, decide_eq_true_eq, decide_eq_true_eq] at h
  exact digitValue_of_ascii (if_pos h)

theorem isNumberBlank_of_isDigit {c : Char} (h : c.isDigit = true) : isNumberBlank c = false := by
  obtain ⟨hlow, hhigh⟩ := isDigit_bounds h
  have hzero : '0'.toNat = 48 := rfl
  have hnine : '9'.toNat = 57 := rfl
  have hblank : isBlank (.char c) = false := by
    simp only [isBlank, CodePoint.toNat_char]
    simp [inRanges, blankRanges]
    omega
  rw [isNumberBlank, hblank]
  rfl

theorem digitChar_of_isDigit {c : Char} (h : c.isDigit = true) :
    c.toNat - '0'.toNat < 10 ∧ Nat.digitChar (c.toNat - '0'.toNat) = c := by
  have hchar : ∀ d < 10, Nat.digitChar d = Char.ofNat ('0'.toNat + d) := by decide
  obtain ⟨hlow, hhigh⟩ := isDigit_bounds h
  have hnine : '9'.toNat = '0'.toNat + 9 := rfl
  have hlt : c.toNat - '0'.toNat < 10 := by omega
  refine ⟨hlt, ?_⟩
  rw [hchar _ hlt, Nat.add_sub_cancel' hlow, Char.ofNat_toNat]

/-! ### Rows of digits -/

/-- The digits of a number, at least one of them; zeros may stand in front. -/
structure IsDigits (ds : List Char) (n : Nat) : Prop where
  ne_nil : ds ≠ []
  isDigit : ∀ c ∈ ds, c.isDigit = true
  value : Nat.ofDigitChars 10 ds 0 = n

theorem isDigits_toDigits (n : Nat) : IsDigits (Nat.toDigits 10 n) n :=
  ⟨Nat.toDigits_ne_nil, fun _ => Nat.isDigit_of_mem_toDigits (by decide) (by decide),
    Nat.ofDigitChars_toDigits (by decide) (by decide)⟩

theorem isAsciiDigit_of_mem_toDigits {n : Nat} {c : Char} (h : c ∈ Nat.toDigits 10 n) :
    isAsciiDigit c = true := by
  rw [isAsciiDigit_eq_isDigit]
  exact (isDigits_toDigits n).isDigit c h

/-- Only zero is written with a zero in front. -/
theorem toDigits_ne_zero_cons {n : Nat} (hn : 0 < n) (rest : List Char) :
    Nat.toDigits 10 n ≠ '0' :: rest := by
  have hdigit : ∀ d < 10, Nat.digitChar d = '0' → d = 0 := by decide
  induction n using Nat.strongRecOn generalizing rest with
  | ind n ih =>
    -- a single digit is no zero; more digits start with those of `n / 10`
    by_cases hlt : n < 10
    · rw [Nat.toDigits_of_lt_base hlt]
      intro h
      have := hdigit n hlt (List.cons.inj h).1
      omega
    · rw [Nat.toDigits_of_base_le (by decide) (by omega)]
      intro h
      cases hdigits : Nat.toDigits 10 (n / 10) with
      | nil => exact Nat.toDigits_ne_nil hdigits
      | cons c cs =>
        rw [hdigits, List.cons_append] at h
        refine ih (n / 10) (by omega) (by omega) cs ?_
        rw [hdigits, (List.cons.inj h).1]

theorem head?_toDigits {n : Nat} (hn : 0 < n) : (Nat.toDigits 10 n).head? ≠ some '0' := by
  intro h
  obtain ⟨rest, hrest⟩ := List.head?_eq_some_iff.mp h
  exact toDigits_ne_zero_cons hn rest hrest

namespace IsDigits

variable {ds : List Char} {n : Nat}

/-- A number has one row of digits without a zero in front. -/
theorem eq_toDigits (h : IsDigits ds n) (hzero : ds.head? = some '0' → ds = ['0']) :
    ds = Nat.toDigits 10 n := by
  induction ds using List.reverseRecOn generalizing n with
  | nil => exact (h.ne_nil rfl).elim
  | append_singleton ds c ih =>
    obtain ⟨hlt, hchar⟩ := digitChar_of_isDigit (h.isDigit c (by simp))
    have hvalue : 10 * Nat.ofDigitChars 10 ds 0 + (c.toNat - '0'.toNat) = n := by
      rw [← h.value, Nat.ofDigitChars_append]
      rfl
    cases hds : ds with
    | nil =>
      have hn : c.toNat - '0'.toNat = n := by simpa [hds, Nat.ofDigitChars] using hvalue
      rw [hn] at hlt hchar
      rw [Nat.toDigits_of_lt_base hlt, hchar]
      rfl
    | cons b rest =>
      -- a digit follows the first one, which is no zero then
      have hhead : ds.head? ≠ some '0' := by
        intro hhead
        have hone := hzero (by rw [hds] at hhead ⊢; exact hhead)
        rw [hds] at hone
        simp at hone
      have hinit : IsDigits ds (Nat.ofDigitChars 10 ds 0) :=
        ⟨by simp [hds], fun d hd => h.isDigit d (List.mem_append_left _ hd), rfl⟩
      have heq := ih hinit fun hzero => (hhead hzero).elim
      have hpos : Nat.ofDigitChars 10 ds 0 ≠ 0 := by
        intro hnone
        rw [hnone] at heq
        exact hhead (by rw [heq]; rfl)
      have hdiv : n / 10 = Nat.ofDigitChars 10 ds 0 := by omega
      have hmod : n % 10 = c.toNat - '0'.toNat := by omega
      rw [Nat.toDigits_of_base_le (by decide) (by omega), hdiv, hmod, hchar, ← heq, hds]

theorem all_isAsciiDigit (h : IsDigits ds n) : (!ds.isEmpty && ds.all isAsciiDigit) = true := by
  rw [Bool.and_eq_true, Bool.not_eq_true', List.isEmpty_eq_false_iff, List.all_eq_true]
  exact ⟨h.ne_nil, fun c hc => isAsciiDigit_eq_isDigit c ▸ h.isDigit c hc⟩

theorem of_all_isAsciiDigit (h : (!ds.isEmpty && ds.all isAsciiDigit) = true) :
    IsDigits ds (Nat.ofDigitChars 10 ds 0) := by
  rw [Bool.and_eq_true, Bool.not_eq_true', List.isEmpty_eq_false_iff, List.all_eq_true] at h
  obtain ⟨hne, hall⟩ := h
  exact ⟨hne, fun c hc => isAsciiDigit_eq_isDigit c ▸ hall c hc, rfl⟩

theorem splitSign_eq (h : IsDigits ds n) : splitSign ds = (false, ds) := by
  unfold splitSign
  split
  · cases h.isDigit '-' List.mem_cons_self
  · cases h.isDigit '+' List.mem_cons_self
  · rfl

end IsDigits

/-! ### Reading a row of digits -/

theorem digitsAfter_of_isDigit {ds : List Char} (h : ∀ c ∈ ds, c.isDigit = true) (acc : Nat) :
    digitsAfter digitValue? acc ds = some (Nat.ofDigitChars 10 ds acc) := by
  induction ds generalizing acc with
  | nil => rfl
  | cons c ds ih =>
    have hc : c.isDigit = true := h c List.mem_cons_self
    have hne : ∀ (b : Char) (rest : List Char), c = '_' → ds = b :: rest → False := by
      rintro b rest rfl -
      cases hc
    rw [digitsAfter.eq_3 _ _ _ _ hne, digitValue?_of_isDigit hc, Nat.ofDigitChars_cons]
    exact ih (fun d hd => h d (List.mem_cons_of_mem c hd)) _

theorem IsDigits.digitsValue?_eq {ds : List Char} {n : Nat} (h : IsDigits ds n) :
    digitsValue? digitValue? ds = some n := by
  cases ds with
  | nil => exact (h.ne_nil rfl).elim
  | cons c ds =>
    have hc : c.isDigit = true := h.isDigit c List.mem_cons_self
    have hds := digitsAfter_of_isDigit fun d hd => h.isDigit d (List.mem_cons_of_mem c hd)
    rw [digitsValue?, digitValue?_of_isDigit hc, Option.bind_some, hds, ← h.value,
      Nat.ofDigitChars_cons]
    simp

theorem trimNumber_of_forall {cs : List Char} (h : ∀ c ∈ cs, isNumberBlank c = false) :
    trimNumber cs = cs := by
  have hdrop : ∀ ds : List Char, (∀ c ∈ ds, isNumberBlank c = false) →
      ds.dropWhile isNumberBlank = ds := by
    intro ds hds
    cases ds with
    | nil => rfl
    | cons c ds => rw [List.dropWhile_cons, hds c (by simp)]; rfl
  rw [trimNumber, hdrop cs h, hdrop cs.reverse fun c hc => h c (List.mem_reverse.mp hc),
    List.reverse_reverse]

/-! ### Numerals -/

/-- A minus sign or nothing, and the digits of the magnitude. -/
inductive IsNumeral : List Char → Int → Prop where
  | plain {ds : List Char} {n : Nat} (h : IsDigits ds n) : IsNumeral ds n
  | minus {ds : List Char} {n : Nat} (h : IsDigits ds n) : IsNumeral ('-' :: ds) (-n)

/-- A numeral without a zero in front, and without a minus sign before zero. -/
inductive IsCanonical : List Char → Int → Prop where
  | plain {ds : List Char} {n : Nat} (h : IsDigits ds n)
      (hzero : ds.head? = some '0' → ds = ['0']) : IsCanonical ds n
  | minus {ds : List Char} {n : Nat} (h : IsDigits ds n) (hzero : ds.head? ≠ some '0') :
      IsCanonical ('-' :: ds) (-n)

theorem IsCanonical.isNumeral {cs : List Char} {n : Int} (h : IsCanonical cs n) :
    IsNumeral cs n := by
  cases h with
  | plain h => exact .plain h
  | minus h => exact .minus h

theorem IsNumeral.trimNumber_eq {cs : List Char} {n : Int} (h : IsNumeral cs n) :
    trimNumber cs = cs := by
  apply trimNumber_of_forall
  intro c hc
  cases h with
  | plain h => exact isNumberBlank_of_isDigit (h.isDigit c hc)
  | minus h =>
    rcases List.mem_cons.mp hc with rfl | hc
    · decide
    · exact isNumberBlank_of_isDigit (h.isDigit c hc)

theorem IsNumeral.integerOf?_eq {cs : List Char} {n : Int} (h : IsNumeral cs n) :
    integerOf? cs = some n := by
  rw [integerOf?, h.trimNumber_eq]
  cases h with
  | plain h =>
    simp only [h.splitSign_eq, h.digitsValue?_eq]
    rfl
  | minus h =>
    simp only [splitSign, h.digitsValue?_eq]
    rfl

theorem isDigitString_iff {cs : List Char} : isDigitString cs = true ↔ ∃ n, IsNumeral cs n := by
  constructor
  · intro h
    unfold isDigitString at h
    split at h
    · exact ⟨_, .minus (.of_all_isAsciiDigit h)⟩
    · exact ⟨_, .plain (.of_all_isAsciiDigit h)⟩
  · rintro ⟨n, hn⟩
    cases hn with
    | minus h => exact h.all_isAsciiDigit
    | plain h =>
      unfold isDigitString
      split
      · cases h.isDigit '-' List.mem_cons_self
      · exact h.all_isAsciiDigit

/-- **Digit strings are the numerals.** -/
theorem digitString?_eq_some {s : Text} {n : Int} :
    digitString? s = some n ↔ ∃ cs, s = .ofChars cs ∧ IsNumeral cs n := by
  rw [digitString?, Option.bind_eq_some_iff]
  simp only [chars?_eq_some]
  refine exists_congr fun cs => and_congr_right fun _ => ?_
  constructor
  · intro h
    split at h
    · rename_i hs
      obtain ⟨m, hm⟩ := isDigitString_iff.mp hs
      rw [hm.integerOf?_eq] at h
      cases h
      exact hm
    · cases h
  · intro h
    rw [if_pos (isDigitString_iff.mpr ⟨n, h⟩), h.integerOf?_eq]

theorem digitString?_ofChars {cs : List Char} {n : Int} (h : IsNumeral cs n) :
    digitString? (.ofChars cs) = some n :=
  digitString?_eq_some.mpr ⟨cs, rfl, h⟩

/-! ### Decimal texts -/

theorem toList_ofInt (n : Int) :
    (Decimal.ofInt n).toList
      = (if n < 0 then ['-'] else []) ++ Nat.toDigits 10 n.natAbs := by
  unfold Decimal.ofInt
  split <;> simp

theorem isCanonical_ofInt (n : Int) : IsCanonical (Decimal.ofInt n).toList n := by
  rw [toList_ofInt]
  by_cases hneg : n < 0
  · have hminus := IsCanonical.minus (isDigits_toDigits n.natAbs) (head?_toDigits (by omega))
    rw [show -(n.natAbs : Int) = n by omega] at hminus
    rwa [if_pos hneg]
  · have hzero : (Nat.toDigits 10 n.natAbs).head? = some '0' →
        Nat.toDigits 10 n.natAbs = ['0'] := by
      intro hhead
      rcases Nat.eq_zero_or_pos n.natAbs with hnone | hpos
      · rw [hnone]
        rfl
      · exact (head?_toDigits hpos hhead).elim
    have hplain := IsCanonical.plain (isDigits_toDigits n.natAbs) hzero
    rw [show (n.natAbs : Int) = n by omega] at hplain
    rwa [if_neg hneg]

/-- **Decimals are the canonical numerals.** -/
theorem isCanonical_iff {cs : List Char} {n : Int} :
    IsCanonical cs n ↔ cs = (Decimal.ofInt n).toList := by
  constructor
  · intro h
    rw [toList_ofInt]
    cases h with
    | @plain ds n h hzero =>
      rw [if_neg (by omega), Int.natAbs_natCast]
      exact h.eq_toDigits hzero
    | @minus ds n h hzero =>
      have hds := h.eq_toDigits fun hhead => (hzero hhead).elim
      have hpos : 0 < n := by
        rw [Nat.pos_iff_ne_zero]
        rintro rfl
        exact hzero (by rw [hds]; rfl)
      rw [if_pos (by omega), Int.natAbs_neg, Int.natAbs_natCast, ← hds]
      rfl
  · rintro rfl
    exact isCanonical_ofInt n

theorem integerOf?_ofInt (n : Int) : integerOf? (Decimal.ofInt n).toList = some n :=
  (isCanonical_ofInt n).isNumeral.integerOf?_eq

/-! ### Hexadecimal digits -/

theorem hexValue?_digitChar : ∀ d < 16, hexValue? (Nat.digitChar d) = some d := by
  decide

theorem hexNumber?_concat {cs : List Char} {c : Char} {n d : Nat} (h : hexNumber? cs = some n)
    (hc : hexValue? c = some d) : hexNumber? (cs ++ [c]) = some (16 * n + d) := by
  rw [hexNumber?] at h ⊢
  simp [List.foldlM_append, h, hc]

theorem hexNumber?_toDigits (n : Nat) : hexNumber? (Nat.toDigits 16 n) = some n := by
  induction n using Nat.strongRecOn with
  | ind n ih =>
    by_cases hn : n < 16
    · rw [Nat.toDigits_of_lt_base hn]
      simp [hexNumber?, hexValue?_digitChar n hn]
    · rw [Nat.toDigits_of_base_le (by decide) (by omega),
        hexNumber?_concat (ih (n / 16) (by omega))
          (hexValue?_digitChar _ (Nat.mod_lt n (by decide)))]
      congr 1
      omega

theorem hexNumber?_replicate_append (k : Nat) (cs : List Char) :
    hexNumber? (List.replicate k '0' ++ cs) = hexNumber? cs := by
  induction k with
  | zero => rfl
  | succ k ih =>
    rw [← ih, List.replicate_succ, List.cons_append]
    rfl

theorem hexNumber?_hexDigits (width n : Nat) : hexNumber? (hexDigits width n) = some n := by
  rw [hexDigits, hexNumber?_replicate_append, hexNumber?_toDigits]

theorem length_hexDigits {width n : Nat} (hwidth : 0 < width) (h : n < 16 ^ width) :
    (hexDigits width n).length = width := by
  have hlen : (Nat.toDigits 16 n).length ≤ width :=
    (Nat.length_toDigits_le_iff (by decide) hwidth).mpr h
  rw [hexDigits, List.length_append, List.length_replicate]
  omega

theorem exists_digitChar_of_mem_toDigits {n : Nat} {c : Char} (h : c ∈ Nat.toDigits 16 n) :
    ∃ d < 16, c = Nat.digitChar d := by
  induction n using Nat.strongRecOn with
  | ind n ih =>
    by_cases hn : n < 16
    · rw [Nat.toDigits_of_lt_base hn, List.mem_singleton] at h
      exact ⟨n, hn, h⟩
    · rw [Nat.toDigits_of_base_le (by decide) (by omega), List.mem_append,
        List.mem_singleton] at h
      rcases h with hfront | hlast
      · exact ih (n / 16) (by omega) hfront
      · exact ⟨n % 16, Nat.mod_lt n (by decide), hlast⟩

theorem exists_digitChar_of_mem_hexDigits {width n : Nat} {c : Char} (h : c ∈ hexDigits width n) :
    ∃ d < 16, c = Nat.digitChar d := by
  rw [hexDigits, List.mem_append] at h
  rcases h with hzero | hdigit
  · exact ⟨0, by decide, List.eq_of_mem_replicate hzero⟩
  · exact exists_digitChar_of_mem_toDigits hdigit

theorem hexValue?_toUpper : ∀ d < 16, hexValue? (Nat.digitChar d).toUpper = some d := by
  decide

/-- It makes no difference whether digits are written in capitals. -/
theorem hexNumber?_toUpper (width n : Nat) :
    hexNumber? ((hexDigits width n).map Char.toUpper) = some n := by
  -- small and capital letters have the same value
  have hvalue : ∀ c ∈ hexDigits width n, hexValue? c.toUpper = hexValue? c := by
    intro c hc
    obtain ⟨d, hd, rfl⟩ := exists_digitChar_of_mem_hexDigits hc
    rw [hexValue?_toUpper d hd, hexValue?_digitChar d hd]
  have hfold : ∀ (cs : List Char) (k : Nat), (∀ c ∈ cs, hexValue? c.toUpper = hexValue? c) →
      (cs.map Char.toUpper).foldlM (fun n c => (hexValue? c).map (16 * n + ·)) k
        = cs.foldlM (fun n c => (hexValue? c).map (16 * n + ·)) k := by
    intro cs
    induction cs with
    | nil => exact fun _ _ => rfl
    | cons c cs ih =>
      intro k h
      obtain ⟨hc, hcs⟩ := List.forall_mem_cons.mp h
      simp only [List.map_cons, List.foldlM_cons, hc]
      congr 1
      exact funext fun k => ih k hcs
  rw [hexNumber?, hfold _ _ hvalue]
  exact hexNumber?_hexDigits width n

end WorkflowPolicy.Text
