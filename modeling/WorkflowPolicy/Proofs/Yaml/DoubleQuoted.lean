/-
  WorkflowPolicy/Proofs/Yaml/DoubleQuoted.lean
  ============================================
  **Texts in double quotes are read as they were written.**  Every code point has an escape
  that stands for it (`escapeAt_tail`), the halves of a surrogate pair as well.  A line is
  broken behind a backslash, and a blank that comes next is kept by a second one, so where
  lines are broken does not matter (`QuotedScalar.read_doubleQuoted`).

  A second backslash keeps its blank only if no line is broken before that blank again.
  So a new line must not start beyond the width of a line.
-/
import WorkflowPolicy.Proofs.Text.Integer
import WorkflowPolicy.Proofs.Yaml.QuotedScalar

namespace WorkflowPolicy.Yaml.QuotedScalar

open WorkflowPolicy.Text

variable {rest : List Char} {ps : List CodePoint} {line column index steps : Nat} {c : CodePoint}

/-! ### Escapes -/

theorem toNat_lt (c : CodePoint) : c.toNat < 0x110000 := by
  cases c with
  | surrogate n =>
    have hplace := n.isLt
    rw [CodePoint.toNat, CodePoint.firstSurrogate]
    omega
  | char c =>
    rcases c.valid with hlow | ⟨-, hhigh⟩
    · have hlow' : c.toNat < 0xd800 := hlow
      rw [CodePoint.toNat_char]
      omega
    · exact hhigh

theorem codeOf_toNat (c : CodePoint) : codeOf c.toNat = .ok c := by
  rw [codeOf, if_neg (Nat.not_lt.mpr (Nat.le_of_lt_succ (toNat_lt c))), CodePoint.ofNat_toNat]

/-- Letters that are written are the ones that are read. -/
theorem find?_shortEscapes : ∀ l ∈ letters, isPrintableAscii l.2 = true
    ∧ shortEscapes.find? (·.1 == l.2) = some (l.2, l.1) := by
  decide

theorem printable_hexDigits (width n : Nat) :
    Printable ((hexDigits width n).map Char.toUpper) := by
  have hdigit : ∀ d < 16, isPrintableAscii (Nat.digitChar d).toUpper = true := by
    decide
  intro x hx
  obtain ⟨y, hy, rfl⟩ := List.mem_map.mp hx
  obtain ⟨d, hd, rfl⟩ := exists_digitChar_of_mem_hexDigits hy
  exact hdigit d hd

/-- A code point without a letter is written by its number, with as many digits as its
    letter announces. -/
theorem exists_hexForm (h : letters.find? (.char ·.1 == c) = none) :
    ∃ letter width, escape c = '\\' :: letter :: (hexDigits width c.toNat).map Char.toUpper
      ∧ isPrintableAscii letter = true ∧ shortEscapes.find? (·.1 == letter) = none
      ∧ hexWidth? letter = some width ∧ 0 < width ∧ c.toNat < 16 ^ width := by
  rw [escape, h]
  by_cases hbyte : c.toNat < 0x100
  · exact ⟨'x', 2, by simp [hbyte], rfl, rfl, rfl, by decide, hbyte⟩
  · by_cases hunit : c.toNat < 0x10000
    · exact ⟨'u', 4, by simp [hbyte, hunit], rfl, rfl, rfl, by decide, hunit⟩
    · exact ⟨'U', 8, by simp [hbyte, hunit], rfl, rfl, rfl, by decide,
        Nat.lt_trans (toNat_lt c) (by decide)⟩

/-- What stands behind the backslash of an escape is read as its code point. -/
theorem escapeAt_tail (c : CodePoint) :
    ∃ letter tail, escape c = '\\' :: letter :: tail ∧ Printable (letter :: tail)
      ∧ ∀ rest line column index, escapeAt ⟨letter :: tail ++ rest, line, column, index⟩
        = .ok (c, ⟨rest, line, column + (letter :: tail).length,
          index + (letter :: tail).length⟩) := by
  cases hfind : letters.find? (.char ·.1 == c) with
  | some l =>
    have hc : .char l.1 = c := by simpa using List.find?_some hfind
    obtain ⟨hprintable, hshort⟩ := find?_shortEscapes l (List.mem_of_find?_eq_some hfind)
    refine ⟨l.2, [], by rw [escape, hfind], by simpa using hprintable, ?_⟩
    intro rest line column index
    simp only [escapeAt, List.cons_append, List.nil_append, hshort,
      Cursor.next_printable hprintable, hc]
    rfl
  | none =>
    obtain ⟨letter, width, hescape, hletter, hshort, hwidth, hpos, hlt⟩ := exists_hexForm hfind
    -- no letter stands for the code point, which is written by its number
    have hlength : ((hexDigits width c.toNat).map Char.toUpper).length = width := by
      rw [List.length_map]
      exact length_hexDigits hpos hlt
    have hprintable : Printable (letter :: (hexDigits width c.toNat).map Char.toUpper) :=
      printable_cons.mpr ⟨hletter, printable_hexDigits _ _⟩
    refine ⟨letter, _, hescape, hprintable, ?_⟩
    intro rest line column index
    have hskip := Cursor.skip_printable hprintable rest line column index
    have hlong : ¬ ((hexDigits width c.toNat).map Char.toUpper ++ rest).length < width := by
      rw [List.length_append, hlength]
      omega
    have htake : ((hexDigits width c.toNat).map Char.toUpper ++ rest).take width
        = (hexDigits width c.toNat).map Char.toUpper := List.take_left' hlength
    rw [List.length_cons, hlength, List.cons_append] at hskip
    rw [List.length_cons, hlength, List.cons_append, escapeAt]
    simp only [hshort, hwidth, expect, bind, Except.bind, if_neg hlong, htake, hexNumber?_toUpper,
      codeOf_toNat]
    rw [hskip]
    rfl

/-! ### Steps -/

variable {text : List Char}

theorem reads_doubleQuote (rest : List Char) : Reads true ('"' :: rest) [] rest := by
  intro line column index
  refine ⟨line, column + 1, index + 1, Nat.le_refl _, ?_⟩
  intro steps hsteps
  obtain ⟨steps, rfl⟩ := Nat.exists_eq_succ_of_ne_zero (Nat.ne_of_gt (Nat.zero_lt_of_lt hsteps))
  rw [bodyAt]
  simp only [quoteOf, if_true, Bool.not_true, Bool.false_and, Bool.false_eq_true, if_false,
    Cursor.next_printable (x := '"') (by decide)]

theorem unescaped?_eq_some {x : Char} : unescaped? c = some x
    ↔ c = .char x ∧ x ≠ '"' ∧ x ≠ '\\' ∧ isPrintableAscii x = true := by
  cases c with
  | surrogate n => simp [unescaped?, CodePoint.char?]
  | char y =>
    simp only [unescaped?, CodePoint.char?, Option.filter_eq_some_iff, Option.some.injEq,
      Bool.and_eq_true, bne_iff_ne, CodePoint.char.injEq, and_assoc]

theorem Reads.unescaped {x : Char} (h : Reads true text ps rest) (hc : unescaped? c = some x)
    (hblank : x ≠ ' ') : Reads true (x :: text) (c :: ps) rest := by
  obtain ⟨rfl, hquote, hslash, hprintable⟩ := unescaped?_eq_some.mp hc
  exact h.char hprintable hblank hquote fun _ => hslash

theorem bodyAt_slash {x : Char} (hx : isLineBreak x = false) (text : List Char) :
    bodyAt true (steps + 1) ⟨'\\' :: x :: text, line, column, index⟩
      = (do
        let (e, after) ← escapeAt ⟨x :: text, line, column + 1, index + 1⟩
        let (ps, after) ← bodyAt true steps after
        return (e :: ps, after)) := by
  rw [bodyAt]
  simp [quoteOf, hx, Cursor.next_printable (x := '\\') (by decide)]

theorem Reads.escape (h : Reads true text ps rest) (c : CodePoint) :
    Reads true (escape c ++ text) (c :: ps) rest := by
  obtain ⟨letter, tail, hescape, hprintable, htail⟩ := escapeAt_tail c
  have hletter := isLineBreak_of_printable (printable_cons.mp hprintable).1
  have hlength : text.length < (Yaml.escape c ++ text).length := by
    rw [hescape, List.length_append, List.length_cons]
    omega
  refine h.step hlength fun line column index => ⟨line,
    column + 1 + (letter :: tail).length, index + 1 + (letter :: tail).length, Nat.le_refl _, ?_⟩
  intro steps after hbody
  have hread := htail text line (column + 1) (index + 1)
  rw [List.cons_append] at hread
  rw [hescape, List.cons_append, List.cons_append, bodyAt_slash hletter, hread]
  simp only [bind, Except.bind, hbody]
  rfl

/-- A blank behind a backslash stays. -/
theorem Reads.keptBlank (h : Reads true text ps rest) :
    Reads true ('\\' :: ' ' :: text) (.char ' ' :: ps) rest := by
  refine h.step (Nat.lt_succ_of_lt (Nat.lt_succ_self _)) fun line column index =>
    ⟨line, column + 1 + 1, index + 1 + 1, Nat.le_refl _, ?_⟩
  intro steps after hbody
  have hread : escapeAt ⟨' ' :: text, line, column + 1, index + 1⟩
      = .ok (.char ' ', ⟨text, line, column + 1 + 1, index + 1 + 1⟩) := rfl
  rw [bodyAt_slash rfl, hread]
  simp only [bind, Except.bind, hbody]
  rfl

/-- A line break behind a backslash vanishes with the blanks of the next line. -/
theorem Reads.lineBreak {n : Nat} (h : Reads true text ps rest) (hline : Line n text) :
    Reads true ('\\' :: (newLine n ++ text)) ps rest := by
  have hlength : text.length < ('\\' :: (newLine n ++ text)).length := by
    rw [List.length_cons, List.length_append]
    omega
  refine h.step hlength fun line column index => ⟨line + 1, n, index + 2 + n, Nat.le_succ _, ?_⟩
  intro steps after hbody
  have hskip : (⟨'\\' :: (newLine n ++ text), line, column, index⟩ : Cursor).skip 2
      = ⟨List.replicate n ' ' ++ text, line + 1, 0, index + 2⟩ := rfl
  -- behind the escaped break comes the indentation and no empty line
  have hempty : emptyLines ('\\' :: (newLine n ++ text)).length
        ⟨List.replicate n ' ' ++ text, line + 1, 0, index + 2⟩
      = .ok ([], ⟨text, line + 1, n, index + 2 + n⟩) :=
    emptyLines_breaks hline 0 (Nat.zero_lt_succ _) (line + 1) (index + 2)
  have hbreak : (newLine n ++ text).head?.any isLineBreak = true := rfl
  have hslash : ('\\' : Char) ≠ quoteOf true := by decide
  rw [bodyAt]
  simp only [if_neg hslash, Bool.true_and, beq_self_eq_true, if_true, hbreak, hskip, hempty, bind,
    Except.bind, hbody]
  rfl

/-- Of several blanks all are read at once. -/
theorem bodyAt_blanks (htext : NoGap text) (n steps line column index : Nat) :
    bodyAt true (steps + 1) ⟨List.replicate (n + 1) ' ' ++ text, line, column, index⟩
      = (bodyAt true steps ⟨text, line, column + (n + 1), index + (n + 1)⟩).map
        fun r => ((List.replicate (n + 1) ' ').map .char ++ r.1, r.2) := by
  have hgap := gapAt_blanks (n + 1) htext line column index
  have hquote : (' ' : Char) ≠ quoteOf true := by decide
  have hslash : (true && (' ' : Char) == '\\') = false := rfl
  have hblank : isGap ' ' = true := rfl
  rw [List.replicate_succ, List.cons_append] at hgap ⊢
  rw [bodyAt]
  simp only [if_neg hquote, hslash, Bool.false_eq_true, if_false, hblank, if_true, hgap, bind,
    Except.bind]
  cases bodyAt true steps ⟨text, line, column + (n + 1), index + (n + 1)⟩ <;> rfl

theorem Reads.blank {n : Nat} {after : List Char}
    (h : Reads true (List.replicate n ' ' ++ after) ps rest) (hafter : NoGap after) :
    Reads true (' ' :: (List.replicate n ' ' ++ after)) (.char ' ' :: ps) rest := by
  intro line column index
  obtain ⟨line', column', index', hline, hbody⟩ := h line (column + 1) (index + 1)
  refine ⟨line', column', index', hline, ?_⟩
  intro steps hsteps
  obtain ⟨steps, rfl⟩ := Nat.exists_eq_succ_of_ne_zero (Nat.ne_of_gt (Nat.zero_lt_of_lt hsteps))
  rw [List.length_cons] at hsteps
  cases n with
  | zero =>
    have hstep := bodyAt_blanks hafter 0 steps line column index
    have hrest := hbody steps (Nat.lt_of_succ_lt_succ hsteps)
    rw [List.replicate_zero, List.nil_append] at hrest ⊢
    rw [List.replicate_one, List.singleton_append, hrest] at hstep
    exact hstep
  | succ n =>
    -- the step that reads the blanks behind this one reads this one too
    have hstep := bodyAt_blanks hafter (n + 1) steps line column index
    have hrest := hbody (steps + 1) (Nat.lt_of_succ_lt hsteps)
    have hcolumn : column + 1 + (n + 1) = column + (n + 1 + 1) := by omega
    have hindex : index + 1 + (n + 1) = index + (n + 1 + 1) := by omega
    rw [bodyAt_blanks hafter, hcolumn, hindex] at hrest
    rw [List.replicate_succ, List.cons_append] at hstep
    rw [hstep]
    cases hafterBody : bodyAt true steps ⟨after, line, column + (n + 1 + 1),
      index + (n + 1 + 1)⟩ with
    | error f =>
      rw [hafterBody] at hrest
      cases hrest
    | ok r =>
      rw [hafterBody] at hrest
      obtain ⟨rfl, hend⟩ := Prod.mk.inj (Except.ok.inj hrest)
      rw [← hend]
      rfl

/-! ### Texts -/

section Texts

variable {p : Place}

theorem doubled_escape (hc : unescaped? c = none) (first escaped : Bool) (p : Place)
    (ps : List CodePoint) :
    doubled first escaped p (c :: ps)
      = escape c ++
        (if (!first && !ps.isEmpty) && (p.advance ((escape c).length - 1)).isFull then
          (keptBreak (p.advance (escape c).length) ps.head?).1
            ++ doubled false true (keptBreak (p.advance (escape c).length) ps.head?).2 ps
        else doubled false true (p.advance (escape c).length) ps) := by
  rw [doubled]
  simp only [hc]
  split
  · rw [List.append_assoc]
  · rfl

theorem doubled_char {x : Char} (hc : unescaped? c = some x) (first escaped : Bool) (p : Place)
    (ps : List CodePoint) :
    doubled first escaped p (c :: ps)
      = if (!first && !ps.isEmpty) && (x == ' ' || escaped) && p.isFull then
          (keptBreak p (some c)).1
            ++ x :: doubled false false ((keptBreak p (some c)).2.advance 1) ps
        else x :: doubled false false (p.advance 1) ps := by
  rw [doubled]
  simp only [hc]

theorem keptBreak_blank (p : Place) :
    keptBreak p (some (.char ' ')) = ('\\' :: newLine p.indent ++ ['\\'], p.broken.advance 1) :=
  if_pos rfl

theorem keptBreak_of_ne {next : Option CodePoint} (h : next ≠ some (.char ' ')) (p : Place) :
    keptBreak p next = ('\\' :: newLine p.indent, p.broken) := if_neg h

theorem exists_keptBreak (p : Place) (next : Option CodePoint) :
    ∃ more, (keptBreak p next).1 = '\\' :: more := by
  by_cases h : next = some (.char ' ')
  · rw [h, keptBreak_blank]
    exact ⟨_, rfl⟩
  · rw [keptBreak_of_ne h]
    exact ⟨_, rfl⟩

theorem indent_keptBreak (p : Place) (next : Option CodePoint) :
    (keptBreak p next).2.indent = p.indent := by
  by_cases h : next = some (.char ' ')
  · rw [h, keptBreak_blank]
    rfl
  · rw [keptBreak_of_ne h]
    rfl

/-- Behind a break the line is short again. -/
theorem isFull_keptBreak (hp : p.indent < lineWidth) (next : Option CodePoint) :
    (keptBreak p next).2.isFull = false := by
  have hshort : ¬ lineWidth < p.indent + 1 := Nat.not_lt.mpr hp
  have hshort' : ¬ lineWidth < p.indent := Nat.not_lt.mpr (Nat.le_of_lt hp)
  by_cases h : next = some (.char ' ')
  · rw [h, keptBreak_blank]
    simp [Place.isFull, Place.broken, Place.advance, hshort]
  · rw [keptBreak_of_ne h]
    simp [Place.isFull, Place.broken, hshort']

/-- What is written starts with blanks, and no other gap follows them. -/
theorem exists_blanks_doubled (first escaped : Bool) (p : Place) (ps : List CodePoint)
    (rest : List Char) : ∃ n after,
      doubled first escaped p ps ++ '"' :: rest = List.replicate n ' ' ++ after ∧ NoGap after := by
  -- an escape starts with a backslash, and so does a break that is kept
  have hslash : ∀ more : List Char, NoGap ('\\' :: more) := by
    rintro more x ⟨⟩
    rfl
  induction ps generalizing first escaped p with
  | nil => exact ⟨0, _, rfl, by rintro x ⟨⟩; rfl⟩
  | cons c ps ih =>
    cases hc : unescaped? c with
    | none =>
      obtain ⟨letter, tail, hescape, -⟩ := escapeAt_tail c
      rw [doubled_escape hc, hescape]
      exact ⟨0, _, rfl, hslash _⟩
    | some x =>
      rw [doubled_char hc]
      split
      · obtain ⟨more, hmore⟩ := exists_keptBreak p (some c)
        rw [hmore]
        exact ⟨0, _, rfl, hslash _⟩
      · by_cases hblank : x = ' '
        · obtain ⟨n, after, hafter, hgap⟩ := ih false false (p.advance 1)
          refine ⟨n + 1, after, ?_, hgap⟩
          rw [List.cons_append, hafter, hblank]
          rfl
        · obtain ⟨-, -, -, hprintable⟩ := unescaped?_eq_some.mp hc
          refine ⟨0, _, rfl, ?_⟩
          rintro y ⟨⟩
          exact isGap_of_printable hprintable hblank

theorem reads_keptBreak {x : Char} (hc : unescaped? c = some x) (h : Reads true text ps rest)
    (hp : 0 < p.indent) : Reads true ((keptBreak p (some c)).1 ++ x :: text) (c :: ps) rest := by
  obtain ⟨rfl, -, -, hprintable⟩ := unescaped?_eq_some.mp hc
  by_cases hblank : x = ' '
  · subst hblank
    -- the blank is kept by a backslash, so the new line does not lose it
    have hline : Line p.indent ('\\' :: ' ' :: text) :=
      line_of_pos hp (by rintro x ⟨⟩; rfl)
    have hread := h.keptBlank.lineBreak hline
    rw [keptBreak_blank]
    simpa using hread
  · have hline : Line p.indent (x :: text) :=
      line_of_pos hp (by rintro y ⟨⟩; exact isGap_of_printable hprintable hblank)
    have hnext : some (CodePoint.char x) ≠ some (.char ' ') := fun heq =>
      hblank (CodePoint.char.inj (Option.some.inj heq))
    have hread := (h.unescaped hc hblank).lineBreak hline
    rw [keptBreak_of_ne hnext]
    exact hread

/-- A text is read whole, also where it goes on behind the break of a line. -/
structure Resumes (ps : List CodePoint) (rest : List Char) : Prop where
  whole : ∀ first escaped p, 0 < p.indent → p.indent < lineWidth →
    Reads true (doubled first escaped p ps ++ '"' :: rest) ps rest
  behindBreak : ∀ p, 0 < p.indent → p.indent < lineWidth →
    Reads true ((keptBreak p ps.head?).1
      ++ (doubled false true (keptBreak p ps.head?).2 ps ++ '"' :: rest)) ps rest

theorem resumes_nil (rest : List Char) : Resumes [] rest := by
  constructor
  · intro first escaped p hp hwidth
    exact reads_doubleQuote rest
  · intro p hp hwidth
    have hline : Line p.indent ('"' :: rest) := line_of_pos hp (by rintro x ⟨⟩; rfl)
    exact (reads_doubleQuote rest).lineBreak hline

theorem Resumes.whole_cons (h : Resumes ps rest) (c : CodePoint) (first escaped : Bool)
    (hp : 0 < p.indent) (hwidth : p.indent < lineWidth) :
    Reads true (doubled first escaped p (c :: ps) ++ '"' :: rest) (c :: ps) rest := by
  cases hc : unescaped? c with
  | none =>
    rw [doubled_escape hc, List.append_assoc]
    apply Reads.escape
    split
    · rw [List.append_assoc]
      exact h.behindBreak (p.advance (escape c).length) hp hwidth
    · exact h.whole false true (p.advance (escape c).length) hp hwidth
  | some x =>
    rw [doubled_char hc]
    split
    · have hindent := indent_keptBreak p (some c)
      have hrest := h.whole false false ((keptBreak p (some c)).2.advance 1)
        (by rwa [← hindent] at hp) (by rwa [← hindent] at hwidth)
      rw [List.append_assoc]
      exact reads_keptBreak hc hrest hp
    · have hrest := h.whole false false (p.advance 1) hp hwidth
      -- a blank is read together with the blanks behind it
      by_cases hblank : x = ' '
      · obtain ⟨n, after, hafter, hgap⟩ :=
          exists_blanks_doubled false false (p.advance 1) ps rest
        obtain ⟨rfl, -⟩ := unescaped?_eq_some.mp hc
        rw [hafter] at hrest
        rw [hblank, List.cons_append, hafter]
        exact hrest.blank hgap
      · exact hrest.unescaped hc hblank

theorem resumes (ps : List CodePoint) (rest : List Char) : Resumes ps rest := by
  induction ps with
  | nil => exact resumes_nil rest
  | cons c ps ih =>
    refine ⟨fun first escaped p hp hwidth => ih.whole_cons c first escaped hp hwidth, ?_⟩
    intro p hp hwidth
    rw [List.head?_cons]
    cases hc : unescaped? c with
    | none =>
      have hblank : some c ≠ some (.char ' ') := by
        intro heq
        rw [Option.some.inj heq] at hc
        cases hc
      obtain ⟨letter, tail, hescape, -⟩ := escapeAt_tail c
      -- behind the break the text goes on with a backslash, so no blank is lost
      have hstart : NoGap (doubled false true p.broken (c :: ps) ++ '"' :: rest) := by
        rw [doubled_escape hc, hescape]
        rintro x ⟨⟩
        rfl
      have hrest := ih.whole_cons (p := p.broken) c false true hp hwidth
      rw [keptBreak_of_ne hblank]
      exact hrest.lineBreak (line_of_pos hp hstart)
    | some x =>
      -- the new line has room for a character, so no second break follows
      have hindent := indent_keptBreak p (some c)
      have hrest := ih.whole false false ((keptBreak p (some c)).2.advance 1)
        (by rwa [← hindent] at hp) (by rwa [← hindent] at hwidth)
      rw [doubled_char hc, isFull_keptBreak hwidth, Bool.and_false, if_neg Bool.false_ne_true]
      exact reads_keptBreak hc hrest hp

theorem read_doubleQuoted (hp : 0 < p.indent) (hwidth : p.indent < lineWidth)
    (s : Text) (rest : List Char) (line column index : Nat) :
    ∃ line' column' index', line ≤ line'
      ∧ read true ⟨doubled true false p s.toList ++ '"' :: rest, line, column, index⟩
        = .ok (s, ⟨rest, line', column', index'⟩) := by
  obtain ⟨line', column', index', hline, hbody⟩ :=
    (resumes s.toList rest).whole true false p hp hwidth line column index
  refine ⟨line', column', index', hline, ?_⟩
  rw [read, hbody _ (Nat.lt_succ_self _)]
  rfl

end Texts

end WorkflowPolicy.Yaml.QuotedScalar
