/-
  WorkflowPolicy/Proofs/Yaml/Integer.lean
  =======================================
  **Integers without quotes.**  The decimal text of an integer can stand without quotes,
  and no word for another type is spelled like it, so it is read as the integer
  (`value_ofInt`).
-/
import WorkflowPolicy.Proofs.Text.DigitLimit
import WorkflowPolicy.Proofs.Yaml.PlainScalar
import WorkflowPolicy.Yaml.Scalar

namespace WorkflowPolicy.Yaml

open WorkflowPolicy.Text

variable {c : Char} {ds cs : List Char} {n : Nat}

theorem ne_of_isDigit (h : c.isDigit = true) {y : Char} (hy : y.isDigit = false) : c ≠ y := by
  rintro rfl
  rw [h] at hy
  cases hy

theorem isPrintableAscii_of_isDigit (h : c.isDigit = true) : isPrintableAscii c = true := by
  rw [Char.isDigit, Bool.and_eq_true, decide_eq_true_eq, decide_eq_true_eq] at h
  exact decide_eq_true ⟨Char.le_trans (by decide) h.1, Char.le_trans h.2 (by decide)⟩

/-- Nothing starts inside a text in which no mark of a key or a comment stands. -/
theorem hasInnerMark_of_forall (h : ∀ x ∈ cs, x ≠ ':' ∧ x ≠ '#') (previous : Char) :
    hasInnerMark previous cs = false := by
  induction cs generalizing previous with
  | nil => rfl
  | cons x cs ih =>
    obtain ⟨⟨hcolon, hcomment⟩, hcs⟩ := List.forall_mem_cons.mp h
    simp [hasInnerMark, hcolon, hcomment, ih hcs]

theorem startsMarked_of_isDigit (h : c.isDigit = true) (cs : List Char) :
    startsMarked (c :: cs) = false := by
  -- no mark is a digit
  have hne : ∀ y ∈ '-' :: '.' :: '?' :: ':' :: startMarks, c ≠ y := by
    have hmarks : ('-' :: '.' :: '?' :: ':' :: startMarks).all (!·.isDigit) = true := by decide
    exact fun y hy => ne_of_isDigit h (by simpa using List.all_eq_true.mp hmarks y hy)
  have hmark : startMarks.contains c = false := by
    rw [Bool.eq_false_iff, ne_eq, List.contains_iff_mem]
    exact fun hmem => hne c (by simp [hmem]) rfl
  unfold startsMarked
  split
  · rename_i heq
    exact (hne '-' (by decide) (List.cons.inj heq).1).elim
  · rename_i heq
    exact (hne '.' (by decide) (List.cons.inj heq).1).elim
  · rename_i heq
    obtain ⟨rfl, rfl⟩ := List.cons.inj heq
    have hsolo : (c == '?' || c == ':' || c == '-') = false := by simp [hne]
    rw [hmark, hsolo]
    rfl
  · rename_i heq
    cases heq

theorem startsMarked_minus (h : c.isDigit = true) (cs : List Char) :
    startsMarked ('-' :: c :: cs) = false := by
  have hblank : (c == ' ') = false := beq_eq_false_iff_ne.mpr (ne_of_isDigit h rfl)
  have hdash : c ≠ '-' := ne_of_isDigit h rfl
  unfold startsMarked
  split
  · rename_i heq
    exact (hdash (List.cons.inj (List.cons.inj heq).2).1).elim
  · rename_i heq
    cases (List.cons.inj heq).1
  · rename_i heq
    obtain ⟨rfl, rfl⟩ := List.cons.inj heq
    simp only [startsBlank, hblank]
    rfl
  · rename_i heq
    cases heq

theorem isDigit_or_minus (n : Int) :
    ∀ c ∈ (Decimal.ofInt n).toList, c.isDigit = true ∨ c = '-' := by
  intro c hc
  rw [toList_ofInt, List.mem_append] at hc
  rcases hc with hsign | hdigit
  · split at hsign
    · exact .inr (List.mem_singleton.mp hsign)
    · cases hsign
  · exact .inl ((isDigits_toDigits n.natAbs).isDigit c hdigit)

theorem blank_not_mem_ofInt (n : Int) : ' ' ∉ (Decimal.ofInt n).toList := by
  intro hmem
  rcases isDigit_or_minus n _ hmem with hdigit | hminus
  · cases hdigit
  · cases hminus

theorem startsMarked_ofInt (n : Int) : startsMarked (Decimal.ofInt n).toList = false := by
  have hcanonical := isCanonical_ofInt n
  generalize (Decimal.ofInt n).toList = cs at hcanonical
  cases hcanonical with
  | @plain ds n h hzero =>
    obtain ⟨d, ds, rfl⟩ := List.exists_cons_of_ne_nil h.ne_nil
    exact startsMarked_of_isDigit (h.isDigit d List.mem_cons_self) ds
  | @minus ds n h hzero =>
    obtain ⟨d, ds, rfl⟩ := List.exists_cons_of_ne_nil h.ne_nil
    exact startsMarked_minus (h.isDigit d List.mem_cons_self) ds

theorem plain_ofInt (n : Int) : PlainScalar.Plain (Decimal.ofInt n).toList := by
  have hchar : ∀ c ∈ (Decimal.ofInt n).toList,
      isPrintableAscii c = true ∧ c ≠ ':' ∧ c ≠ '#' := by
    intro c hc
    rcases isDigit_or_minus n c hc with h | rfl
    · exact ⟨isPrintableAscii_of_isDigit h, ne_of_isDigit h rfl, ne_of_isDigit h rfl⟩
    · decide
  have hne : (Decimal.ofInt n).toList ≠ [] := by
    rw [toList_ofInt]
    exact List.append_ne_nil_of_right_ne_nil _ Nat.toDigits_ne_nil
  exact ⟨.word hne (blank_not_mem_ofInt n), fun c hc => (hchar c hc).1, startsMarked_ofInt n,
    hasInnerMark_of_forall (fun c hc => (hchar c hc).2) 'x'⟩

theorem integerIn_digits (h : IsDigits ds n) (hfew : hasTooManyDigits ds = false) :
    Scalar.integerIn 10 (ds.map .char) = .ok n := by
  have hchars : (Text.ofList (ds.map .char)).chars? = some ds := chars?_ofChars ds
  have hread : Scalar.integerIn? 10 ds = some (n : Int) := by
    rw [Scalar.integerIn?, if_pos rfl, (IsNumeral.plain h).integerOf?_eq]
  simp only [Scalar.integerIn, hchars, hread, hfew, Bool.false_eq_true, and_false, if_false]

theorem unsignedInteger_digits (h : IsDigits ds n) (hzero : ds.head? = some '0' → ds = ['0'])
    (hfew : hasTooManyDigits ds = false) : Scalar.unsignedInteger (ds.map .char) = .ok n := by
  by_cases hhead : ds.head? = some '0'
  · have hvalue := h.value
    rw [hzero hhead] at hvalue ⊢
    rw [← hvalue]
    rfl
  · have hcolon : (ds.map CodePoint.char).contains (.char ':') = false := by
      rw [Bool.eq_false_iff, ne_eq, List.contains_iff_mem]
      intro hmem
      obtain ⟨c, hc, heq⟩ := List.mem_map.mp hmem
      cases heq
      cases h.isDigit _ hc
    have hstart : ∀ rest, ds.map CodePoint.char ≠ .char '0' :: rest := by
      intro rest hrest
      obtain ⟨c, cs, rfl, hc, -⟩ := List.map_eq_cons_iff.mp hrest
      cases hc
      exact hhead rfl
    unfold Scalar.unsignedInteger
    split
    · rename_i heq
      exact (h.ne_nil (List.map_eq_nil_iff.mp heq)).elim
    · exact (hstart _ ‹_›).elim
    · exact (hstart _ ‹_›).elim
    · exact (hstart _ ‹_›).elim
    · exact (hstart _ ‹_›).elim
    · rw [hcolon, if_neg Bool.false_ne_true, integerIn_digits h hfew]

theorem isDecimal_digits (h : IsDigits ds n) (hzero : ds.head? = some '0' → ds = ['0']) :
    Tag.isDecimal ds = true := by
  obtain ⟨d, ds, rfl⟩ := List.exists_cons_of_ne_nil h.ne_nil
  obtain ⟨hd, hds⟩ := List.forall_mem_cons.mp h.isDigit
  by_cases hhead : d = '0'
  · rw [hzero (congrArg some hhead)]
    rfl
  · have habove : Tag.startsAboveZero (d :: ds) = true := by
      have hdigit : ∀ k < 10, Nat.digitChar k ≠ '0' →
          '1' ≤ Nat.digitChar k ∧ Nat.digitChar k ≤ '9' := by
        decide
      obtain ⟨hlt, hchar⟩ := digitChar_of_isDigit hd
      have hbetween := hdigit _ hlt (by rwa [hchar])
      rw [hchar] at hbetween
      exact decide_eq_true hbetween
    have hwhole : Tag.isWhole (d :: ds) = true := by
      rw [Tag.isWhole, isAsciiDigit_eq_isDigit, hd, Bool.true_and, List.all_eq_true]
      intro c hc
      rw [Tag.isDigitOrGap, isAsciiDigit_eq_isDigit, hds c hc, Bool.true_or]
    rw [Tag.isDecimal, habove, hwhole]
    simp

/-- What starts with a digit or with a sign is none of the words for nulls and booleans. -/
theorem ofPlain_of_isInteger (hhead : ∃ x, cs.head? = some x ∧ (x.isDigit = true ∨ x = '-'))
    (h : Tag.isInteger cs = true) : Tag.ofPlain cs = .int := by
  have hwords : ∀ s ∈ Tag.nullWords ++ Tag.boolWords,
      s.toList.head?.all (fun x => !x.isDigit && x != '-') = true := by
    decide
  have hnone : String.ofList cs ∉ Tag.nullWords ++ Tag.boolWords := by
    intro hmem
    obtain ⟨x, hx, hstart⟩ := hhead
    obtain ⟨hdigit, hminus⟩ : x.isDigit = false ∧ x ≠ '-' := by
      simpa [hx] using hwords _ hmem
    rcases hstart with hx | hx
    · rw [hx] at hdigit
      cases hdigit
    · exact hminus hx
  rw [List.mem_append, not_or] at hnone
  have hnull : Tag.nullWords.contains (String.ofList cs) = false := by
    rw [Bool.eq_false_iff, ne_eq, List.contains_iff_mem]
    exact hnone.1
  have hbool : Tag.boolWords.contains (String.ofList cs) = false := by
    rw [Bool.eq_false_iff, ne_eq, List.contains_iff_mem]
    exact hnone.2
  simp only [Tag.ofPlain, hnull, hbool, h, Bool.false_eq_true, if_false, if_true]

theorem tag_of_isCanonical {n : Int} (h : IsCanonical cs n) : Tag.ofPlain cs = .int := by
  cases h with
  | @plain ds n h hzero =>
    obtain ⟨d, ds, rfl⟩ := List.exists_cons_of_ne_nil h.ne_nil
    refine ofPlain_of_isInteger ⟨d, rfl, .inl (h.isDigit d List.mem_cons_self)⟩ ?_
    rw [Tag.isInteger, h.splitSign_eq, Tag.isUnsignedInteger, isDecimal_digits h hzero]
    simp
  | @minus ds n h hzero =>
    have hsplit : splitSign ('-' :: ds) = (true, ds) := rfl
    refine ofPlain_of_isInteger ⟨'-', rfl, .inr rfl⟩ ?_
    rw [Tag.isInteger, hsplit, Tag.isUnsignedInteger,
      isDecimal_digits h fun hhead => (hzero hhead).elim]
    simp

theorem withoutGaps_ofInt (n : Int) :
    Scalar.withoutGaps (Decimal.ofInt n : Text).toList = (Decimal.ofInt n).toList.map .char := by
  refine List.filter_eq_self.mpr ?_
  rw [toList_ofString, List.forall_mem_map]
  intro c hc
  have hne : c ≠ '_' := by
    rcases isDigit_or_minus n c hc with h | rfl
    · exact ne_of_isDigit h rfl
    · decide
  simpa using hne

/-- Zeros in front would mean base eight, but a decimal has none. -/
theorem value_ofInt {n : Int} (hn : Decimal.isWritable n = true) :
    Scalar.value (Tag.ofPlain (Decimal.ofInt n).toList) (Decimal.ofInt n) = .ok (.int n) := by
  have hcanonical := isCanonical_ofInt n
  have hgaps := withoutGaps_ofInt n
  have hfew : hasTooManyDigits (Decimal.ofInt n).toList = false := by
    rw [hasTooManyDigits_ofInt, hn]
    rfl
  have hint : Tag.ofPlain (Decimal.ofInt n).toList = .int := tag_of_isCanonical hcanonical
  rw [hint, Scalar.value, Scalar.integer, hgaps]
  generalize (Decimal.ofInt n).toList = cs at hcanonical hfew
  cases hcanonical with
  | @plain ds n h hzero =>
    have hread := unsignedInteger_digits h hzero hfew
    obtain ⟨d, ds, rfl⟩ := List.exists_cons_of_ne_nil h.ne_nil
    have hd : d.isDigit = true := h.isDigit d List.mem_cons_self
    have hminus : CodePoint.char d ≠ .char '-' := fun heq => by cases heq; cases hd
    have hplus : CodePoint.char d ≠ .char '+' := fun heq => by cases heq; cases hd
    rw [List.map_cons] at hread ⊢
    simp only [Scalar.withoutSign, hminus, hplus, or_self, if_false, hread, bind, Except.bind]
    rfl
  | @minus ds n h hzero =>
    rw [hasTooManyDigits, countDigits_minus] at hfew
    have hread := unsignedInteger_digits h (fun hhead => (hzero hhead).elim) hfew
    rw [List.map_cons]
    simp only [Scalar.withoutSign, true_or, if_true, hread, bind, Except.bind]
    rfl

end WorkflowPolicy.Yaml
