/-
  WorkflowPolicy/Proofs/Templatable.lean
  ======================================
  **Integers that a job may compute.**  A raw value stands for a number when it is an
  integer, a finite floating-point number or a numeral (`Data.IsNumber`), and is an
  expression when its text stands between the brackets (`Templatable.isExpression_iff`).
  No value is both, and reading takes no other (`integer?_eq_none`).

  The stored text of an integer setting is a decimal or an expression.  Reading it gives
  the setting back (`integer?_ofInt`, `ofIntegerText_ofInt`), since an expression is no
  integer, not even with blanks around it (`integer?_of_isExpression`).
-/
import WorkflowPolicy.Proofs.Decimal.Value
import WorkflowPolicy.Proofs.Text.DigitLimit
import WorkflowPolicy.Templatable

namespace WorkflowPolicy

/-! ### Expressions -/

namespace Templatable

theorem isExpression_iff {s : Text} :
    isExpression s = true ↔ ∃ body, s = "$\x7b\x7b" ++ body ++ "\x7d\x7d" := by
  rw [isExpression, Text.isPrefixOf, Text.isSuffixOf, Bool.and_eq_true,
    List.isPrefixOf_iff_prefix, List.isSuffixOf_iff_suffix]
  constructor
  · rintro ⟨⟨rest, hrest⟩, hsuffix⟩
    -- the brackets have no character in common, so they do not overlap
    have hbody : ([.char '\x7d', .char '\x7d'] : List CodePoint) <:+ rest := by
      have hends : rest <:+ s.toList := ⟨_, hrest⟩
      rcases List.suffix_or_suffix_of_suffix hsuffix hends with h | h
      · exact h
      · rw [← hrest] at hsuffix
        rcases List.suffix_cons_iff.mp h with rfl | h
        · exact List.suffix_rfl
        · rcases List.suffix_cons_iff.mp h with rfl | h
          · exact absurd hsuffix (by decide)
          · obtain rfl := List.suffix_nil.mp h
            exact absurd hsuffix (by decide)
    obtain ⟨body, rfl⟩ := hbody
    refine ⟨.ofList body, ?_⟩
    rw [← Text.toList_inj, ← hrest]
    simp
  · rintro ⟨body, rfl⟩
    rw [Text.toList_append, Text.toList_append]
    refine ⟨⟨body.toList ++ [.char '\x7d', .char '\x7d'], ?_⟩, List.suffix_append _ _⟩
    simp

theorem exists_of_isExpression {cs : List Char} (h : isExpression (.ofChars cs) = true) :
    ∃ body, cs = '$' :: (body ++ ['\x7d']) := by
  obtain ⟨body, hbody⟩ := isExpression_iff.mp h
  have hcs : cs.map .char = (([.char '$', .char '\x7b', .char '\x7b'] : List CodePoint)
      ++ body.toList) ++ [.char '\x7d', .char '\x7d'] :=
    congrArg Text.toList hbody
  obtain ⟨front, back, rfl, hfront, hback⟩ := List.map_eq_append_iff.mp hcs
  obtain ⟨start, inner, rfl, hstart, -⟩ := List.map_eq_append_iff.mp hfront
  obtain rfl : start = ['$', '\x7b', '\x7b'] := Text.ofChars_inj.mp (Text.ext hstart)
  obtain rfl : back = ['\x7d', '\x7d'] := Text.ofChars_inj.mp (Text.ext hback)
  exact ⟨'\x7b' :: '\x7b' :: (inner ++ ['\x7d']), by simp⟩

theorem integerOf?_of_isExpression {cs : List Char} (h : isExpression (.ofChars cs) = true) :
    Text.integerOf? cs = none := by
  obtain ⟨body, rfl⟩ := exists_of_isExpression h
  have hopen : Text.isNumberBlank '$' = false := by decide
  have hclose : Text.isNumberBlank '\x7d' = false := by decide
  have htrim : Text.trimNumber ('$' :: (body ++ ['\x7d'])) = '$' :: (body ++ ['\x7d']) := by
    simp [Text.trimNumber, hopen, hclose]
  have hdollar : Text.digitValue? '$' = none := by decide
  rw [Text.integerOf?, htrim]
  simp [Text.splitSign, Text.digitsValue?, hdollar]

theorem integer?_of_isExpression {s : Text} (h : isExpression s = true) :
    Text.integer? s = none := by
  rw [Text.integer?, Option.bind_eq_none_iff]
  intro cs hcs
  rw [Text.chars?_eq_some] at hcs
  subst hcs
  rw [integerOf?_of_isExpression h, ite_self]

theorem isExpression_eq_false {cs : List Char} {n : ℤ} (h : Text.integerOf? cs = some n) :
    isExpression (.ofChars cs) = false := by
  rw [Bool.eq_false_iff]
  intro hs
  rw [integerOf?_of_isExpression hs] at h
  cases h

end Templatable

/-! ### Raw numbers -/

namespace Data

/-- The number that a raw value stands for: an integer, a finite floating-point number, or
    a text that is a numeral. -/
inductive IsNumber : Data → ℚ → Prop where
  | int (n : ℤ) : IsNumber (.int n) n
  | float {x : Binary64} {q : ℚ} (h : x.value? = some q) : IsNumber (.float x) q
  | numeral {cs : List Char} {n : ℤ} (h : Text.IsNumeral cs n) : IsNumber (.text (.ofChars cs)) n

/-- A raw value that is neither an expression nor a number. -/
structure IsNoInteger (d : Data) : Prop where
  noExpression : ∀ s, d = .text s → Templatable.isExpression s = false
  noNumber : ∀ q, ¬ d.IsNumber q

theorem expression_or_isNumber (d : Data) :
    (∃ s, d = .text s ∧ Templatable.isExpression s = true) ∨ (∃ q, d.IsNumber q)
      ∨ d.IsNoInteger := by
  by_cases hexpression : ∃ s, d = .text s ∧ Templatable.isExpression s = true
  · exact .inl hexpression
  · by_cases hnumber : ∃ q, d.IsNumber q
    · exact .inr (.inl hnumber)
    · refine .inr (.inr ⟨?_, not_exists.mp hnumber⟩)
      intro s hs
      exact Bool.eq_false_iff.mpr fun htrue => hexpression ⟨s, hs, htrue⟩

theorem exists_isNumber_of_number? {d : Data} {n : ℤ} (h : d.number? = some n) :
    ∃ q, d.IsNumber q ∧ towardZero q = n := by
  cases d with
  | int m =>
    obtain rfl := Option.some.inj h
    exact ⟨m, .int m, towardZero_intCast m⟩
  | float x =>
    rw [number?, Binary64.truncate?_eq] at h
    obtain ⟨q, hq, hn⟩ := Option.map_eq_some_iff.mp h
    exact ⟨q, .float hq, hn⟩
  | _ => cases h

end Data

/-! ### Reading a raw value -/

namespace Templatable

theorem integer?_of_ne_text {d : Data} (h : ∀ s, d ≠ .text s) :
    integer? d = d.number?.map .literal := by
  cases d with
  | text s => exact (h s rfl).elim
  | _ => rfl

theorem integer?_of_isNumber {d : Data} {q : ℚ} (h : d.IsNumber q) :
    integer? d = some (.literal (towardZero q)) := by
  cases h with
  | int n =>
    rw [towardZero_intCast]
    rfl
  | float h =>
    rw [integer?_of_ne_text (by simp), Data.number?, Binary64.truncate?_eq, h]
    rfl
  | @numeral cs n h =>
    have hs : isExpression (.ofChars cs) = false := isExpression_eq_false h.integerOf?_eq
    rw [towardZero_intCast]
    simp [integer?, expression?, hs, Text.digitString?_ofChars h]

theorem integer?_eq_none {d : Data} (h : d.IsNoInteger) : integer? d = none := by
  by_cases htext : ∃ s, d = .text s
  · obtain ⟨s, rfl⟩ := htext
    have hdigits : Text.digitString? s = none := by
      rw [Option.eq_none_iff_forall_ne_some]
      intro n hn
      obtain ⟨cs, rfl, hcs⟩ := Text.digitString?_eq_some.mp hn
      exact h.noNumber n (.numeral hcs)
    simp [integer?, expression?, h.noExpression s rfl, hdigits]
  · rw [integer?_of_ne_text (not_exists.mp htext), Option.map_eq_none_iff,
      Option.eq_none_iff_forall_ne_some]
    intro n hn
    obtain ⟨q, hq, -⟩ := Data.exists_isNumber_of_number? hn
    exact h.noNumber q hq

/-! ### Numbers that are too long -/

theorem isOverlong_int (n : ℤ) : isOverlong (.int n) = !Decimal.isWritable n := rfl

/-- What is read of a raw value that is not too long can be written. -/
theorem isWritable_of_integer? {d : Data} {n : ℤ} (hread : integer? d = some (.literal n))
    (hshort : isOverlong d = false) : Decimal.isWritable n = true := by
  by_cases htext : ∃ s, d = .text s
  · obtain ⟨s, rfl⟩ := htext
    have hdigits : Text.digitString? s = some n := by
      rw [integer?] at hread
      cases hs : expression? (.text s) with
      | some t => simp [hs] at hread
      | none => simpa [hs] using hread
    obtain ⟨cs, rfl, hnumeral⟩ := Text.digitString?_eq_some.mp hdigits
    rw [isOverlong, Text.chars?_ofChars, Option.any_some,
      Text.isDigitString_iff.mpr ⟨n, hnumeral⟩, Bool.true_and] at hshort
    exact hnumeral.isWritable hshort
  · have hnot := not_exists.mp htext
    rw [integer?_of_ne_text hnot] at hread
    obtain ⟨m, hm, hlit⟩ := Option.map_eq_some_iff.mp hread
    cases hlit
    have hlong : d.isLongNumber = false := by
      cases d with
      | text s => exact (hnot s rfl).elim
      | _ => exact hshort
    simpa [Data.isLongNumber, hm] using hlong

theorem isOverlong_of_isExpression {s : Text} (h : isExpression s = true) :
    isOverlong (.text s) = false := by
  rw [isOverlong, Option.any_eq_false]
  intro cs hcs
  rw [Text.chars?_eq_some] at hcs
  subst hcs
  rw [Bool.and_eq_false_iff]
  refine .inl (Bool.eq_false_iff.mpr fun hdigits => ?_)
  obtain ⟨n, hn⟩ := Text.isDigitString_iff.mp hdigits
  have hnone := integerOf?_of_isExpression h
  rw [hn.integerOf?_eq] at hnone
  cases hnone

/-! ### The stored text -/

/-- The number that a stored text holds, where it is not an expression. -/
def storedNumber? (t : Option Text) : Option ℤ := t.bind fun s => (ofIntegerText s).number?

/-- A stored text as a raw value. -/
def storedData (t : Option Text) : Data := (t.map .text).getD .null

/-- A stored text as an author would write it. -/
def authoredData (t : Option Text) : Data :=
  (t.map fun s => (ofIntegerText s).integerData).getD .null

theorem integer?_ofInt (n : ℤ) : integer? (.text (Decimal.ofInt n)) = some (.literal n) := by
  have h := integer?_of_isNumber (.numeral (Text.isCanonical_ofInt n).isNumeral)
  rwa [towardZero_intCast] at h

theorem ofIntegerText_ofInt {n : ℤ} (h : Decimal.isWritable n = true) :
    ofIntegerText (Decimal.ofInt n) = .literal n := by
  rw [ofIntegerText, Text.integer?_ofInt h]

theorem storedNumber?_ofInt {n : ℤ} (h : Decimal.isWritable n = true) :
    storedNumber? (some (Decimal.ofInt n)) = some n := by
  rw [storedNumber?, Option.bind_some, ofIntegerText_ofInt h]
  rfl

theorem ofIntegerText_of_isExpression {s : Text} (h : isExpression s = true) :
    ofIntegerText s = .expression s := by
  rw [ofIntegerText, integer?_of_isExpression h]

end Templatable

end WorkflowPolicy
