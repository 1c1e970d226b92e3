/-
  WorkflowPolicy/Proofs/Yaml/PlainScalar.lean
  ===========================================
  **Texts without quotes are read as they were written.**  A text that can stand without
  quotes is a row of words with blanks between them, and no word ends where a key or a
  comment would start.  Each word is read as a whole, and the gap behind it counts as the
  blanks that it was written for, whether a line was broken there or not
  (`PlainScalar.read_folded`).

  A word without blanks is also read where the colon of a key follows it
  (`PlainScalar.read_key`).
-/
import WorkflowPolicy.Proofs.Yaml.Lines
import WorkflowPolicy.Yaml.PlainScalar

namespace WorkflowPolicy.Yaml.PlainScalar

variable {cs rest : List Char} {line column index : Nat}

/-! ### Rows of words -/

/-- Words with blanks between them. -/
inductive Row : List Char → Prop
  | word {w : List Char} (hne : w ≠ []) (hblank : ' ' ∉ w) : Row w
  | more {w cs : List Char} (hne : w ≠ []) (hblank : ' ' ∉ w) (n : Nat) (hcs : Row cs) :
    Row (w ++ (List.replicate (n + 1) ' ' ++ cs))

theorem Row.cons {x : Char} (hx : x ≠ ' ') (h : Row cs) : Row (x :: cs) := by
  have hlonger : ∀ w, ' ' ∉ w → ' ' ∉ x :: w := by
    intro w hw hmem
    rcases List.mem_cons.mp hmem with heq | htail
    · exact hx heq.symm
    · exact hw htail
  cases h with
  | word hne hblank => exact .word (List.cons_ne_nil _ _) (hlonger _ hblank)
  | more hne hblank n hcs => exact .more (List.cons_ne_nil _ _) (hlonger _ hblank) n hcs

/-- A text that does not end with a blank is a row of words behind blanks. -/
theorem exists_row (hne : cs ≠ []) (hlast : cs.getLast? ≠ some ' ') :
    ∃ n row, cs = List.replicate n ' ' ++ row ∧ Row row := by
  induction cs with
  | nil => exact (hne rfl).elim
  | cons x rest ih =>
    by_cases hrest : rest = []
    · subst hrest
      have hx : ' ' ∉ [x] := fun h => hlast (congrArg some (List.mem_singleton.mp h).symm)
      exact ⟨0, [x], rfl, .word (List.cons_ne_nil _ _) hx⟩
    · have hlast' : rest.getLast? ≠ some ' ' := by
        rwa [List.getLast?_cons_of_ne_nil hrest] at hlast
      obtain ⟨n, row, rfl, hrow⟩ := ih hrest hlast'
      by_cases hx : x = ' '
      · exact ⟨n + 1, row, by rw [hx]; rfl, hrow⟩
      · cases n with
        | zero => exact ⟨0, x :: row, rfl, hrow.cons hx⟩
        | succ n =>
          have hword : ' ' ∉ [x] := fun h => hx (List.mem_singleton.mp h).symm
          exact ⟨0, _, rfl, .more (List.cons_ne_nil _ _) hword n hrow⟩

theorem row_of_head (hne : cs ≠ []) (hhead : cs.head? ≠ some ' ')
    (hlast : cs.getLast? ≠ some ' ') : Row cs := by
  obtain ⟨n, row, rfl, hrow⟩ := exists_row hne hlast
  cases n with
  | zero => exact hrow
  | succ n => exact (hhead rfl).elim

theorem Row.exists_head (h : Row cs) : ∃ x rest, cs = x :: rest ∧ x ≠ ' ' := by
  cases h with
  | @word w hne hblank | @more w cs hne hblank n hcs =>
    obtain ⟨x, w, rfl⟩ := List.exists_cons_of_ne_nil hne
    exact ⟨x, _, rfl, fun heq => hblank (by simp [heq])⟩

/-! ### Words -/

theorem hasInnerMark_append {previous : Char} {w : List Char}
    (h : hasInnerMark previous (w ++ cs) = false) :
    ∃ y, hasInnerMark y cs = false := by
  induction w generalizing previous with
  | nil => exact ⟨previous, h⟩
  | cons x w ih =>
    rw [List.cons_append, hasInnerMark, Bool.or_eq_false_iff] at h
    exact ih h.2

theorem wordAt_gap (hrest : ∀ x ∈ rest.head?, isGap x = true) : wordAt false rest = [] := by
  cases rest with
  | nil => rfl
  | cons x rest => simp [wordAt, hrest x rfl]

/-- A word is read up to where the next one would be empty. -/
theorem wordAt_word {previous : Char} {w : List Char} (hw : Printable w) (hblank : ' ' ∉ w)
    (hmark : hasInnerMark previous (w ++ cs) = false) (hcs : startsBlank cs = true)
    (hrest : wordAt false rest = []) : wordAt false (w ++ rest) = w := by
  induction w generalizing previous with
  | nil => exact hrest
  | cons x w ih =>
    obtain ⟨hx, hw⟩ := printable_cons.mp hw
    rw [List.cons_append, hasInnerMark, Bool.or_eq_false_iff, Bool.or_eq_false_iff] at hmark
    obtain ⟨⟨hcolon, -⟩, hmark⟩ := hmark
    have hne : x ≠ ' ' := fun h => hblank (by simp [h])
    have hkey : (x == ':' && endsKey false (w ++ rest)) = false := by
      cases w with
      | nil =>
        rw [List.nil_append, hcs, Bool.and_true] at hcolon
        rw [hcolon, Bool.false_and]
      | cons x' w =>
        have hx' : isGap x' = false := by
          apply isGap_of_printable (printable_cons.mp hw).1
          exact fun h => hblank (by simp [h])
        simp [endsKey, hx']
    rw [List.cons_append, wordAt, isGap_of_printable hx hne, hkey,
      ih hw (fun h => hblank (List.mem_cons_of_mem _ h)) hmark]
    rfl

/-! ### Gaps -/

theorem gapAt_blanks (n : Nat) (hrest : NoGap rest) :
    gapAt ⟨List.replicate n ' ' ++ rest, line, column, index⟩
      = ⟨List.replicate n ' ', false, ⟨rest, line, column + n, index + n⟩⟩ := by
  simp only [gapAt, Cursor.span_blanks (p := (· == ' ')) rfl hrest.ne_blank,
    Cursor.lineBreak_of_noGap hrest]

/-- No lines are empty before a line that goes on. -/
theorem emptyLines_line {n : Nat} (h : Line n rest) (steps : Nat) :
    emptyLines (steps + 1) ⟨List.replicate n ' ' ++ rest, line, 0, index⟩
      = (some [], ⟨rest, line, n, index + n⟩) := by
  simp only [emptyLines, h.noMark, Bool.false_eq_true, if_false, Cursor.skipWhile,
    Cursor.span_blanks (p := (· == ' ')) rfl h.start.ne_blank, Cursor.lineBreak_of_noGap h.start,
    Nat.zero_add]

/-- A line break counts as one blank. -/
theorem gapAt_newLine {n : Nat} (h : Line n rest) :
    gapAt ⟨newLine n ++ rest, line, column, index⟩
      = ⟨[' '], true, ⟨rest, line + 1, n, index + 1 + n⟩⟩ := by
  have hspan : (⟨newLine n ++ rest, line, column, index⟩ : Cursor).span (· == ' ')
      = ([], ⟨newLine n ++ rest, line, column, index⟩) := rfl
  have hnext : (⟨newLine n ++ rest, line, column, index⟩ : Cursor).lineBreak
      = (['\n'], ⟨List.replicate n ' ' ++ rest, line + 1, 0, index + 1⟩) := rfl
  simp only [gapAt, hspan, hnext, emptyLines_line h]
  rfl

/-! ### Texts -/

/-- Behind blanks no comment starts. -/
theorem hasInnerMark_blanks {previous : Char} (n : Nat)
    (h : hasInnerMark previous (List.replicate (n + 1) ' ' ++ cs) = false) :
    hasInnerMark ' ' cs = false := by
  induction n generalizing previous with
  | zero => exact (Bool.or_eq_false_iff.mp h).2
  | succ n ih => exact ih (Bool.or_eq_false_iff.mp h).2

theorem isWordChar {w : List Char} (hw : Printable w) (hblank : ' ' ∉ w) :
    ∀ x ∈ w, x ≠ ' ' ∧ x ≠ '\n' ∧ some x ≠ none := by
  intro x hx
  refine ⟨fun h => hblank (h ▸ hx), ?_, Option.some_ne_none x⟩
  exact ne_of_isPrintableAscii (hw x hx) (by decide)

theorem head?_folded (hrow : Row cs) (hprintable : Printable cs) (mark previous : Option Char)
    (p : Place) (rest : List Char) : (folded mark previous p cs ++ rest).head? = cs.head? := by
  obtain ⟨x, cs, rfl, hx⟩ := hrow.exists_head
  have hfeed := ne_of_isPrintableAscii (printable_cons.mp hprintable).1 (y := '\n') (by decide)
  obtain ⟨more, hmore⟩ := exists_folded_head hx hfeed mark previous p cs
  rw [hmore]
  rfl

theorem noGap_folded (hrow : Row cs) (hprintable : Printable cs) (mark previous : Option Char)
    (p : Place) (rest : List Char) : NoGap (folded mark previous p cs ++ rest) := by
  rw [NoGap, head?_folded hrow hprintable]
  obtain ⟨x, cs, rfl, hx⟩ := hrow.exists_head
  rintro y ⟨⟩
  exact isGap_of_printable (printable_cons.mp hprintable).1 hx

/-- What a row of words starts with behind a blank starts no comment. -/
theorem head?_ne_comment (hrow : Row cs) (hmark : hasInnerMark ' ' cs = false) :
    cs.head? ≠ some '#' := by
  obtain ⟨x, cs, rfl, -⟩ := hrow.exists_head
  rintro ⟨⟩
  simp [hasInnerMark] at hmark

/-- A gap counts as the blanks that it was written for. -/
theorem gapAt_folded {p : Place} {least c : Nat} (hleast : 0 < least) (hp : least ≤ p.indent)
    (hc : least ≤ c) (hrow : Row cs) (hprintable : Printable cs) (previous : Option Char)
    (n : Nat) (rest : List Char) (line index : Nat) :
    ∃ q broke line' c' index', q.indent = p.indent ∧ line ≤ line' ∧ least ≤ c'
      ∧ (∀ x ∈ (folded none previous p (List.replicate (n + 1) ' ' ++ cs) ++ rest).head?,
        isGap x = true)
      ∧ gapAt ⟨folded none previous p (List.replicate (n + 1) ' ' ++ cs) ++ rest, line, c, index⟩
        = ⟨List.replicate (n + 1) ' ', broke,
          ⟨folded none (some ' ') q cs ++ rest, line', c', index'⟩⟩ := by
  obtain ⟨q, hq, hfolded⟩ := folded_blanks none p previous n cs
  rcases hfolded with hraw | ⟨rfl, -, hbroken⟩
  · have hgap := noGap_folded hrow hprintable none (some ' ') q rest
    refine ⟨q, false, line, c + (n + 1), index + (n + 1), hq, Nat.le_refl _, by omega, ?_⟩
    rw [hraw, List.append_assoc, gapAt_blanks _ hgap]
    exact ⟨by rintro x ⟨⟩; rfl, rfl⟩
  · have hgap := noGap_folded hrow hprintable none (some ' ') q rest
    have hpos : 0 < p.indent := Nat.lt_of_lt_of_le hleast hp
    refine ⟨q, true, line + 1, p.indent, index + 1 + p.indent, hq, Nat.le_succ _, hp, ?_⟩
    rw [hbroken, List.append_assoc, gapAt_newLine (line_of_pos hpos hgap)]
    exact ⟨by rintro x ⟨⟩; rfl, rfl⟩

section Words

variable {least steps : Nat} {gap gap' : Gap} {w : List Char}

/-- The word before a gap that ends on too small a column is the last one. -/
theorem wordsAt_last (hword : wordAt false gap.after.rest = w) (hne : w ≠ [])
    (hgap : gapAt (gap.after.skip w.length) = gap') (hends : gap'.after.column < least) :
    wordsAt false least (steps + 1) gap = ⟨gap.text ++ w, gap'.brokeLine, gap'.after⟩ := by
  rw [wordsAt]
  simp only [hword, hgap]
  simp [hne, hends]

/-- Behind any other gap the words go on, unless a comment starts. -/
theorem wordsAt_more (hword : wordAt false gap.after.rest = w) (hne : w ≠ [])
    (hgap : gapAt (gap.after.skip w.length) = gap') (htext : gap'.text ≠ [])
    (hcomment : gap'.after.rest.head? ≠ some '#') (hcolumn : least ≤ gap'.after.column) :
    wordsAt false least (steps + 1) gap
      = { wordsAt false least steps gap' with
          text := gap.text ++ w ++ (wordsAt false least steps gap').text } := by
  rw [wordsAt]
  simp only [hword, hgap]
  rw [if_neg (by simpa using hne), if_neg]
  simp [Cursor.peek?, htext, hcomment, hcolumn]

end Words

/-- A row of words is read whole, up to the line break behind it. -/
theorem wordsAt_folded {least : Nat} {next : List Char} (hline : Line column next)
    (hcolumn : column < least) (hrow : Row cs) (hprintable : Printable cs) {previous : Char}
    (hmark : hasInnerMark previous cs = false) {steps : Nat} (hsteps : cs.length ≤ steps)
    {p : Place} (hp : least ≤ p.indent) (before : Option Char) (gap : Gap) {c : Nat}
    (hc : least ≤ c)
    (hgap : gap.after = ⟨folded none before p cs ++ (newLine column ++ next), line, c, index⟩) :
    ∃ line' index', line < line' ∧ wordsAt false least steps gap
      = ⟨gap.text ++ cs, true, ⟨next, line', column, index'⟩⟩ := by
  induction hrow generalizing previous steps p before gap c line index with
  | @word w hne hblank =>
    have hlength := List.length_pos_iff.mpr hne
    obtain ⟨steps, rfl⟩ : ∃ k, steps = k + 1 := ⟨steps - 1, by omega⟩
    obtain ⟨y, -, hfolded⟩ := folded_word (p := p) (isWordChar hprintable hblank) hne before []
    rw [List.append_nil, folded, List.append_nil] at hfolded
    rw [hfolded] at hgap
    have hmark' : hasInnerMark previous (w ++ []) = false := by
      rwa [List.append_nil]
    have hword : wordAt false gap.after.rest = w := by
      rw [hgap]
      exact wordAt_word hprintable hblank hmark' rfl (wordAt_gap (by rintro x ⟨⟩; rfl))
    have hgap' : gapAt (gap.after.skip w.length)
        = ⟨[' '], true, ⟨next, line + 1, column, index + w.length + 1 + column⟩⟩ := by
      rw [hgap, Cursor.skip_printable hprintable, gapAt_newLine hline]
    exact ⟨line + 1, _, Nat.lt_succ_self _, wordsAt_last hword hne hgap' hcolumn⟩
  | @more w cs hne hblank n hcs ih =>
    obtain ⟨hw, hrest⟩ := printable_append.mp hprintable
    obtain ⟨-, hcsPrintable⟩ := printable_append.mp hrest
    have hlength := List.length_pos_iff.mpr hne
    simp only [List.length_append, List.length_replicate] at hsteps
    obtain ⟨steps, rfl⟩ : ∃ k, steps = k + 1 := ⟨steps - 1, by omega⟩
    -- the word is written as it is, and behind it the blanks or a line break for them
    obtain ⟨y, -, hfolded⟩ := folded_word (p := p)
      (isWordChar hw hblank) hne before (List.replicate (n + 1) ' ' ++ cs)
    rw [hfolded, List.append_assoc] at hgap
    have hpos : 0 < least := Nat.lt_of_le_of_lt (Nat.zero_le _) hcolumn
    have hc' : least ≤ c + w.length := Nat.le_add_right_of_le hc
    obtain ⟨q, broke, line₁, c₁, index₁, hindent, hline₁, hc₁, hstart, hgapAt⟩ :=
      gapAt_folded hpos (p := p.advance w.length) hp hc' hcs hcsPrintable (some y) n
        (newLine column ++ next) line (index + w.length)
    have hword : wordAt false gap.after.rest = w := by
      rw [hgap]
      exact wordAt_word hw hblank hmark rfl (wordAt_gap hstart)
    have hgap' : gapAt (gap.after.skip w.length) = ⟨List.replicate (n + 1) ' ', broke,
        ⟨folded none (some ' ') q cs ++ (newLine column ++ next), line₁, c₁, index₁⟩⟩ := by
      rw [hgap, Cursor.skip_printable hw, hgapAt]
    obtain ⟨z, hblanks⟩ := hasInnerMark_append hmark
    have hmark' := hasInnerMark_blanks n hblanks
    have hcomment : (folded none (some ' ') q cs ++ (newLine column ++ next)).head? ≠ some '#' := by
      rw [head?_folded hcs hcsPrintable]
      exact head?_ne_comment hcs hmark'
    -- the other words follow from the gap, which is where the induction goes on
    obtain ⟨line₂, index₂, hline₂, hwords⟩ := ih hcsPrintable hmark'
      (show cs.length ≤ steps by omega) (p := q) (hindent ▸ hp) (some ' ')
      ⟨List.replicate (n + 1) ' ', broke, ⟨folded none (some ' ') q cs ++ (newLine column ++ next),
        line₁, c₁, index₁⟩⟩ hc₁ rfl
    refine ⟨line₂, index₂, Nat.lt_of_le_of_lt hline₁ hline₂, ?_⟩
    rw [wordsAt_more hword hne hgap' (List.cons_ne_nil _ _) hcomment hc₁, hwords]
    simp only [List.append_assoc]

/-! ### Plain scalars -/

/-- What a text is that can stand without quotes. -/
structure Plain (cs : List Char) : Prop where
  row : Row cs
  printable : Printable cs
  start : startsMarked cs = false
  inner : hasInnerMark 'x' cs = false

theorem plain_of_canBePlain (h : canBePlain cs = true) : Plain cs := by
  cases cs with
  | nil => cases h
  | cons x cs =>
    simp only [canBePlain, Bool.and_eq_true, Bool.not_eq_true'] at h
    obtain ⟨⟨⟨⟨hprintable, hhead⟩, hlast⟩, hstart⟩, hinner⟩ := h
    have hcolon : (x == ':' && startsBlank cs) = false := by
      by_cases hx : x = ':'
      · subst hx
        simpa [startsMarked, startMarks] using hstart
      · simp [hx]
    refine ⟨row_of_head (List.cons_ne_nil _ _) ?_ ?_, List.all_eq_true.mp hprintable, hstart, ?_⟩
    · simpa using hhead
    · simpa using hlast
    · rw [hasInnerMark, hcolon, hinner]
      simp

theorem Plain.ne_nil (h : Plain cs) : cs ≠ [] := by
  obtain ⟨x, rest, rfl, -⟩ := h.row.exists_head
  exact List.cons_ne_nil x rest

/-- In a single word no line is broken. -/
theorem Plain.folded_oneWord (h : Plain cs) (hblank : ' ' ∉ cs) (p : Place) :
    folded none none p cs = cs := by
  obtain ⟨y, -, hfolded⟩ := folded_word (p := p) (isWordChar h.printable hblank) h.ne_nil none
    []
  rwa [List.append_nil, folded, List.append_nil] at hfolded

theorem read_folded {least : Nat} {next : List Char} (hplain : Plain cs)
    (hline : Line column next) (hcolumn : column < least) {p : Place} (hp : least ≤ p.indent)
    {c : Nat} (hc : least ≤ c) (line index : Nat) :
    ∃ line' index', line < line'
      ∧ read false least ⟨folded none none p cs ++ (newLine column ++ next), line, c, index⟩
        = ⟨cs, true, ⟨next, line', column, index'⟩⟩ := by
  have hsteps : cs.length ≤ (folded none none p cs ++ (newLine column ++ next)).length + 1 := by
    have hfolded := length_le_length_folded none none p cs
    rw [List.length_append]
    omega
  exact wordsAt_folded hline hcolumn hplain.row hplain.printable hplain.inner hsteps hp none
    ⟨[], false, _⟩ hc rfl

/-- A word before the colon of a key is read up to the colon. -/
theorem read_key (hplain : Plain cs) (hblank : ' ' ∉ cs)
    (hrest : ∀ x ∈ rest.head?, isGap x = true) (least line column index : Nat) :
    read false least ⟨cs ++ ':' :: rest, line, column, index⟩
      = ⟨cs, false, ⟨':' :: rest, line, column + cs.length, index + cs.length⟩⟩ := by
  have hkey : wordAt false (':' :: rest) = [] := by
    cases rest with
    | nil => rfl
    | cons x rest => simp [wordAt, endsKey, hrest x rfl]
  have hinner : hasInnerMark 'x' (cs ++ []) = false := by
    rw [List.append_nil]
    exact hplain.inner
  have hword := wordAt_word hplain.printable hblank hinner rfl hkey
  have hgap : gapAt ⟨':' :: rest, line, column + cs.length, index + cs.length⟩
      = ⟨[], false, ⟨':' :: rest, line, column + cs.length, index + cs.length⟩⟩ :=
    gapAt_blanks 0 (by rintro x ⟨⟩; rfl)
  obtain ⟨x, more, hcs, -⟩ := hplain.row.exists_head
  rw [read, wordsAt]
  simp only [hword, Cursor.skip_printable hplain.printable, hgap]
  simp [hcs]

end WorkflowPolicy.Yaml.PlainScalar
