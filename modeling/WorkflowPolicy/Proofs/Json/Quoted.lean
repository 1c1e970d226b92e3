/-
  WorkflowPolicy/Proofs/Json/Quoted.lean
  ======================================
  **Quoted texts read back**, all but their pairs.  A character beyond the basic plane is
  written as a high and a low unit, which the reader joins again.  A half of such a pair
  that stands in a text by itself is written as a unit, too, so of two halves side by side
  the reader makes a character that was not there (`joinPairs`).  Any other code point is
  read from its own encoding (`IsEncoding.decodeCode?`).

  An encoding never opens with a quote, so the reader stops at the closing quote
  and nowhere before it (`decode?_encodeCodes`).  What is written is printable, so no
  quoted text reaches beyond its line (`unbroken_encode`).
-/
import WorkflowPolicy.Json.Quoted
import WorkflowPolicy.Proofs.Text.Integer
import WorkflowPolicy.Proofs.Text.Lines

namespace WorkflowPolicy.Json

open WorkflowPolicy.Text

/-! ### Units -/

theorem unitAt?_hexDigits {n : Nat} (h : n < 0x10000) (rest : List Char) :
    unitAt? (hexDigits 4 n ++ rest) = some (n, rest) := by
  have hlength : (hexDigits 4 n).length = 4 := length_hexDigits (by decide) h
  obtain ⟨a, b, c, d, hcs⟩ : ∃ a b c d, hexDigits 4 n = [a, b, c, d] := by
    match hcs : hexDigits 4 n, hlength with
    | [a, b, c, d], _ => exact ⟨a, b, c, d, rfl⟩
  have hread : hexNumber? [a, b, c, d] = some n := by
    rw [← hcs]
    exact hexNumber?_hexDigits 4 n
  simp [hcs, unitAt?, hread]

theorem not_isUnit_char (c : Char) : isHighUnit c.toNat = false ∧ isLowUnit c.toNat = false := by
  have hchar := CodePoint.ne_surrogate_of_char c
  simp only [CodePoint.firstSurrogate] at hchar
  simp only [isHighUnit, isLowUnit, Bool.and_eq_false_iff, decide_eq_false_iff_not]
  omega

theorem not_isLowUnit {n : Nat} (h : isHighUnit n = true) : isLowUnit n = false := by
  simp only [isHighUnit, isLowUnit, Bool.and_eq_true, Bool.and_eq_false_iff, decide_eq_true_eq,
    decide_eq_false_iff_not] at h ⊢
  omega

theorem joinUnits_add (high low : Nat) :
    joinUnits (0xD800 + high) (0xDC00 + low) = 0x10000 + high * 0x400 + low := by
  have hhigh : 0xD800 + high - 0xD800 = high := Nat.add_sub_cancel_left 0xD800 high
  have hlow : 0xDC00 + low - 0xDC00 = low := Nat.add_sub_cancel_left 0xDC00 low
  unfold joinUnits
  rw [hhigh, hlow]

theorem unitPair_spec {n : Nat} (hlow : 0x10000 ≤ n) (hhigh : n < 0x110000) :
    isHighUnit (unitPair n).1 = true ∧ isLowUnit (unitPair n).2 = true
      ∧ (unitPair n).1 < 0x10000 ∧ (unitPair n).2 < 0x10000
      ∧ joinUnits (unitPair n).1 (unitPair n).2 = n := by
  obtain ⟨high, hhighEq⟩ : ∃ high, high = (n - 0x10000) / 0x400 := ⟨_, rfl⟩
  obtain ⟨low, hlowEq⟩ : ∃ low, low = (n - 0x10000) % 0x400 := ⟨_, rfl⟩
  have hpair : unitPair n = (0xD800 + high, 0xDC00 + low) := by rw [unitPair, hhighEq, hlowEq]
  have hbound : high < 0x400 ∧ low < 0x400 := by omega
  have hsum : 0x10000 + high * 0x400 + low = n := by omega
  have hhighUnit : isHighUnit (0xD800 + high) = true := by
    rw [isHighUnit, Bool.and_eq_true, decide_eq_true_iff, decide_eq_true_iff]
    omega
  have hlowUnit : isLowUnit (0xDC00 + low) = true := by
    rw [isLowUnit, Bool.and_eq_true, decide_eq_true_iff, decide_eq_true_iff]
    omega
  rw [hpair, joinUnits_add]
  exact ⟨hhighUnit, hlowUnit, by omega, by omega, hsum⟩

theorem toNat_lt_bound (c : Char) : c.toNat < 0x110000 := by
  have hvalid := c.valid
  have hnat : c.val.toNat = c.toNat := rfl
  simp only [UInt32.isValidChar, Nat.isValidChar, hnat] at hvalid
  omega

/-! ### Pairs -/

/-- The two units of one character, side by side. -/
def IsPair (c d : CodePoint) : Prop := isHighUnit c.toNat = true ∧ isLowUnit d.toNat = true

instance (c d : CodePoint) : Decidable (IsPair c d) :=
  inferInstanceAs (Decidable (isHighUnit c.toNat = true ∧ isLowUnit d.toNat = true))

def HasPair (cs : List CodePoint) : Prop := ∃ c d, [c, d] <:+: cs ∧ IsPair c d

/-- One character in the place of every pair. -/
def joinPairs : List CodePoint → List CodePoint
  | c :: d :: rest =>
    if IsPair c d then .ofNat (joinUnits c.toNat d.toNat) :: joinPairs rest
    else c :: joinPairs (d :: rest)
  | cs => cs

theorem hasPair_cons_cons {c d : CodePoint} {cs : List CodePoint} :
    HasPair (c :: d :: cs) ↔ IsPair c d ∨ HasPair (d :: cs) := by
  constructor
  · rintro ⟨a, b, hinfix, hpair⟩
    rcases List.infix_cons_iff.mp hinfix with hfirst | hlater
    · obtain ⟨rfl, hsecond⟩ := List.cons_prefix_cons.mp hfirst
      obtain ⟨rfl, -⟩ := List.cons_prefix_cons.mp hsecond
      exact .inl hpair
    · exact .inr ⟨a, b, hlater, hpair⟩
  · rintro (hpair | ⟨a, b, hlater, hpair⟩)
    · exact ⟨c, d, (List.prefix_append [c, d] cs).isInfix, hpair⟩
    · exact ⟨a, b, hlater.trans (List.suffix_cons c (d :: cs)).isInfix, hpair⟩

theorem not_hasPair_of_length {cs : List CodePoint} (h : cs.length < 2) : ¬ HasPair cs := by
  rintro ⟨c, d, hinfix, -⟩
  exact absurd hinfix.length_le (Nat.not_le.mpr h)

theorem length_joinPairs_le (cs : List CodePoint) : (joinPairs cs).length ≤ cs.length := by
  fun_induction joinPairs cs with
  | case1 c d rest hpair ih =>
    simp only [List.length_cons]
    omega
  | case2 c d rest hpair ih => exact Nat.succ_le_succ ih
  | case3 cs => exact Nat.le_refl _

theorem joinPairs_eq_self_iff {cs : List CodePoint} : joinPairs cs = cs ↔ ¬ HasPair cs := by
  fun_induction joinPairs cs with
  | case1 c d rest hpair ih =>
    refine iff_of_false ?_ (not_not.mpr (hasPair_cons_cons.mpr (.inl hpair)))
    intro h
    have hlength := congrArg List.length h
    have hle := length_joinPairs_le rest
    simp only [List.length_cons] at hlength
    omega
  | case2 c d rest hpair ih => rw [List.cons_inj_right, ih, hasPair_cons_cons, or_iff_right hpair]
  | case3 cs hshort =>
    refine iff_of_true rfl (not_hasPair_of_length ?_)
    match cs, hshort with
    | [], _ => decide
    | [c], _ => exact Nat.lt_succ_self 1
    | c :: d :: rest, hshort => exact (hshort c d rest rfl).elim

/-! ### Single code points -/

theorem decodeCode?_hexEscape {n : Nat} (h : n < 0x10000) (rest : List Char) :
    decodeCode? (hexEscape 'u' 4 n ++ rest) = some (unitCode n rest) := by
  rw [hexEscape, List.cons_append, List.cons_append, decodeCode?, unitAt?_hexDigits h]
  rfl

/-- A unit takes the escape behind it along if that is a low unit. -/
theorem unitCode_hexEscape {high n : Nat} (hhigh : isHighUnit high = true) (hn : n < 0x10000)
    (rest : List Char) : unitCode high (hexEscape 'u' 4 n ++ rest)
      = if isLowUnit n then (.ofNat (joinUnits high n), rest)
        else (.ofNat high, hexEscape 'u' 4 n ++ rest) := by
  unfold unitCode hexEscape
  rw [if_pos hhigh]
  simp only [List.cons_append, unitAt?_hexDigits hn]

/-- The four forms in which a code point is written. -/
inductive IsEncoding : CodePoint → List Char → Prop
  | short {c : Char} (letter : Char) (h : shortEscape? letter = some c) (hu : letter ≠ 'u') :
      IsEncoding (.char c) ['\\', letter]
  | plain {c : Char} (hquote : c ≠ '"') (hslash : c ≠ '\\')
      (hprintable : 0x20 ≤ c.toNat ∧ c.toNat < 0x7F) : IsEncoding (.char c) [c]
  | unit {c : CodePoint} (hplane : c.toNat < 0x10000) : IsEncoding c (hexEscape 'u' 4 c.toNat)
  | pair {c : Char} (hplane : 0x10000 ≤ c.toNat) : IsEncoding (.char c)
      (hexEscape 'u' 4 (unitPair c.toNat).1 ++ hexEscape 'u' 4 (unitPair c.toNat).2)

theorem isEncoding_encodeChar (c : Char) : IsEncoding (.char c) (encodeChar c) := by
  have hshort : ∀ d letter, shortEscape? letter = some d → letter ≠ 'u' → c = d →
      IsEncoding (.char c) ['\\', letter] := by
    rintro d letter h hu rfl
    exact .short letter h hu
  unfold encodeChar
  split_ifs with hquote hslash hfeed hreturn htab hform hback hprintable hplane
  · exact hshort '"' '"' rfl (by decide) hquote
  · exact hshort '\\' '\\' rfl (by decide) hslash
  · exact hshort '\n' 'n' rfl (by decide) hfeed
  · exact hshort '\r' 'r' rfl (by decide) hreturn
  · exact hshort '\t' 't' rfl (by decide) htab
  · exact hshort '\x0c' 'f' rfl (by decide) hform
  · exact hshort '\x08' 'b' rfl (by decide) hback
  · exact .plain hquote hslash hprintable
  · exact .unit (c := .char c) hplane
  · exact .pair (Nat.le_of_not_lt hplane)

theorem isEncoding_encodeCode (c : CodePoint) : IsEncoding c (encodeCode c) := by
  cases c with
  | char c => exact isEncoding_encodeChar c
  | surrogate n =>
    refine .unit ?_
    have := n.isLt
    simp only [CodePoint.toNat, CodePoint.firstSurrogate]
    omega

theorem IsEncoding.ne_nil {c : CodePoint} {text : List Char} (h : IsEncoding c text) :
    text ≠ [] := by
  cases h with
  | short => exact List.cons_ne_nil _ _
  | plain => exact List.cons_ne_nil _ _
  | unit => exact List.cons_ne_nil _ _
  | pair => exact List.cons_ne_nil _ _

theorem IsEncoding.head?_ne_quote {c : CodePoint} {text : List Char} (h : IsEncoding c text)
    (rest : List Char) : (text ++ rest).head? ≠ some '"' := by
  cases h with
  | plain hquote => exact fun hhead => hquote (Option.some.inj hhead)
  | short => exact fun hhead => absurd (Option.some.inj hhead) (by decide)
  | unit => exact fun hhead => absurd (Option.some.inj hhead) (by decide)
  | pair => exact fun hhead => absurd (Option.some.inj hhead) (by decide)

/-- A high unit before anything but a low one stands alone. -/
theorem IsEncoding.unitCode_eq {d : CodePoint} {text : List Char} (h : IsEncoding d text)
    {high : Nat} (hhigh : isHighUnit high = true) (hd : isLowUnit d.toNat = false)
    (rest : List Char) : unitCode high (text ++ rest) = (.ofNat high, text ++ rest) := by
  cases h with
  | short letter h hu =>
    unfold unitCode
    rw [if_pos hhigh]
    split
    · rename_i heq
      exact absurd (List.cons.inj (List.cons.inj heq).2).1 hu
    · rfl
  | plain hquote hslash hprintable =>
    unfold unitCode
    rw [if_pos hhigh]
    split
    · rename_i heq
      exact absurd (List.cons.inj heq).1 hslash
    · rfl
  | unit hplane => rw [unitCode_hexEscape hhigh hplane, hd, if_neg Bool.false_ne_true]
  | @pair c hplane =>
    obtain ⟨hfirst, -, hfirstLt, -⟩ := unitPair_spec hplane (toNat_lt_bound c)
    rw [List.append_assoc, unitCode_hexEscape hhigh hfirstLt, not_isLowUnit hfirst,
      if_neg Bool.false_ne_true]

/-- **A code point reads back from its encoding**, unless it is half of a pair. -/
theorem IsEncoding.decodeCode? {c : CodePoint} {text : List Char} (h : IsEncoding c text)
    {rest : List Char}
    (halone : isHighUnit c.toNat = true → unitCode c.toNat rest = (.ofNat c.toNat, rest)) :
    decodeCode? (text ++ rest) = some (c, rest) := by
  cases h with
  | short letter h hu =>
    rw [List.cons_append, List.singleton_append, Json.decodeCode?.eq_2 _ _ hu, h]
    rfl
  | @plain c hquote hslash hprintable =>
    have hshown : ¬ (c = '\\' ∨ c.toNat < 0x20) := by
      rintro (h | h)
      · exact hslash h
      · omega
    rw [List.singleton_append, Json.decodeCode?.eq_3, if_neg hshown]
    · exact fun rest' h _ => hslash h
    · exact fun d rest' h _ => hslash h
  | unit hplane =>
    have hunit : unitCode c.toNat rest = (.ofNat c.toNat, rest) := by
      by_cases hhigh : isHighUnit c.toNat = true
      · exact halone hhigh
      · unfold unitCode
        rw [if_neg hhigh]
    rw [decodeCode?_hexEscape hplane, hunit, CodePoint.ofNat_toNat]
  | @pair c hplane =>
    obtain ⟨hhigh, hlow, hhighLt, hlowLt, hjoin⟩ := unitPair_spec hplane (toNat_lt_bound c)
    rw [List.append_assoc, decodeCode?_hexEscape hhighLt, unitCode_hexEscape hhigh hlowLt,
      if_pos hlow, hjoin]
    exact congrArg (fun d => some (d, rest)) (CodePoint.ofNat_toNat (.char c))

/-- A pair reads as one character. -/
theorem decodeCode?_encodeCode_pair {c d : CodePoint} (h : IsPair c d) (rest : List Char) :
    decodeCode? (encodeCode c ++ (encodeCode d ++ rest))
      = some (.ofNat (joinUnits c.toNat d.toNat), rest) := by
  -- characters are no halves
  have hhalf : ∀ {c : CodePoint}, isHighUnit c.toNat = true ∨ isLowUnit c.toNat = true →
      encodeCode c = hexEscape 'u' 4 c.toNat ∧ c.toNat < 0x10000 := by
    intro c hunit
    cases c with
    | char c =>
      have hnot := not_isUnit_char c
      rw [CodePoint.toNat_char, hnot.1, hnot.2] at hunit
      exact absurd hunit (by decide)
    | surrogate n =>
      have := n.isLt
      exact ⟨rfl, by simp only [CodePoint.toNat, CodePoint.firstSurrogate]; omega⟩
  obtain ⟨hc, hclt⟩ := hhalf (.inl h.1)
  obtain ⟨hd, hdlt⟩ := hhalf (.inr h.2)
  rw [hc, hd, decodeCode?_hexEscape hclt, unitCode_hexEscape h.1 hdlt, if_pos h.2]

/-! ### Whole texts -/

theorem decodeBody?_succ {cs rest : List Char} {c : CodePoint}
    (h : decodeCode? cs = some (c, rest)) (hquote : cs.head? ≠ some '"') (steps : Nat) :
    decodeBody? (steps + 1) cs = (decodeBody? steps rest).map fun r => (c :: r.1, r.2) := by
  rw [decodeBody?, h]
  rintro rest' rfl
  exact hquote rfl

theorem unitCode_quote (n : Nat) (rest : List Char) :
    unitCode n ('"' :: rest) = (.ofNat n, '"' :: rest) := by
  unfold unitCode
  split <;> rfl

theorem decodeBody?_encode (cs : List CodePoint) (steps : Nat) (hsteps : cs.length ≤ steps)
    (rest : List Char) :
    decodeBody? steps (cs.flatMap encodeCode ++ '"' :: rest) = some (joinPairs cs, rest) := by
  fun_induction joinPairs cs generalizing steps with
  | case1 c d cs hpair ih =>
    cases steps with
    | zero => cases hsteps
    | succ steps =>
      simp only [List.length_cons] at hsteps
      rw [List.flatMap_cons, List.flatMap_cons, List.append_assoc, List.append_assoc,
        decodeBody?_succ (decodeCode?_encodeCode_pair hpair _)
          ((isEncoding_encodeCode c).head?_ne_quote _),
        ih steps (by omega)]
      rfl
  | case2 c d cs hpair ih =>
    cases steps with
    | zero => cases hsteps
    | succ steps =>
      have htail := ih steps (Nat.le_of_succ_le_succ hsteps)
      rw [List.flatMap_cons, List.append_assoc] at htail
      have halone : isHighUnit c.toNat = true →
          unitCode c.toNat (encodeCode d ++ (cs.flatMap encodeCode ++ '"' :: rest))
            = (.ofNat c.toNat, encodeCode d ++ (cs.flatMap encodeCode ++ '"' :: rest)) := by
        intro hhigh
        have hlow : isLowUnit d.toNat = false := Bool.eq_false_iff.mpr fun h => hpair ⟨hhigh, h⟩
        exact (isEncoding_encodeCode d).unitCode_eq hhigh hlow _
      rw [List.flatMap_cons, List.flatMap_cons, List.append_assoc, List.append_assoc,
        decodeBody?_succ ((isEncoding_encodeCode c).decodeCode? halone)
          ((isEncoding_encodeCode c).head?_ne_quote _),
        htail]
      rfl
  | case3 cs hshort =>
    match cs, hshort with
    | [], _ => cases steps <;> rfl
    | [c], _ =>
      cases steps with
      | zero => cases hsteps
      | succ steps =>
        rw [List.flatMap_singleton, decodeBody?_succ
          ((isEncoding_encodeCode c).decodeCode? fun _ => unitCode_quote _ _)
          ((isEncoding_encodeCode c).head?_ne_quote _)]
        cases steps <;> rfl
    | c :: d :: cs, hshort => exact (hshort c d cs rfl).elim

theorem length_le_length_flatMap_encodeCode (cs : List CodePoint) :
    cs.length ≤ (cs.flatMap encodeCode).length := by
  induction cs with
  | nil => simp
  | cons c cs ih =>
    have hpos : 0 < (encodeCode c).length :=
      List.length_pos_iff.mpr (isEncoding_encodeCode c).ne_nil
    rw [List.flatMap_cons, List.length_append, List.length_cons]
    omega

/-- **A quoted text reads back**, up to its closing quote, but for its pairs. -/
theorem decode?_encodeCodes (cs : List CodePoint) (rest : List Char) :
    decode? (encodeCodes cs ++ rest) = some (joinPairs cs, rest) := by
  have hlen := length_le_length_flatMap_encodeCode cs
  rw [encodeCodes, List.cons_append, List.append_assoc, List.singleton_append, decode?]
  refine decodeBody?_encode cs _ ?_ rest
  rw [List.length_append]
  omega

/-! ### Quoted texts in lines -/

theorem isLineEnd_of_shortEscape? {letter c : Char} (h : shortEscape? letter = some c) :
    isLineEnd letter = false := by
  unfold shortEscape? at h
  split at h <;> first | rfl | cases h

theorem IsEncoding.unbroken {c : CodePoint} {text : List Char} (h : IsEncoding c text) :
    UnbrokenChars text := by
  cases h with
  | short letter h hu =>
    exact unbrokenChars_cons.mpr
      ⟨rfl, unbrokenChars_cons.mpr ⟨isLineEnd_of_shortEscape? h, unbrokenChars_nil⟩⟩
  | plain hquote hslash hprintable =>
    exact unbrokenChars_cons.mpr
      ⟨isLineEnd_of_printable hprintable.1 hprintable.2, unbrokenChars_nil⟩
  | unit hplane => exact unbroken_hexEscape rfl _ _
  | pair hplane =>
    exact unbrokenChars_append.mpr
      ⟨unbroken_hexEscape rfl _ _, unbroken_hexEscape rfl _ _⟩

theorem unbroken_encode (s : Text) : UnbrokenChars (encode s).toList := by
  rw [encode, String.toList_ofList, encodeCodes, unbrokenChars_cons, unbrokenChars_append]
  refine ⟨rfl, ?_, unbrokenChars_cons.mpr ⟨rfl, unbrokenChars_nil⟩⟩
  intro p hp
  obtain ⟨c, hc, rfl⟩ := List.mem_map.mp hp
  obtain ⟨d, -, hcd⟩ := List.mem_flatMap.mp hc
  exact (isEncoding_encodeCode d).unbroken _ (List.mem_map_of_mem hcd)

end WorkflowPolicy.Json
