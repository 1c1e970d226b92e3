/-
  WorkflowPolicy/Proofs/Yaml/QuotedScalar.lean
  ============================================
  **Texts in single quotes are read as they were written.**  Such a text consists of
  characters, runs of blanks and runs of line breaks, and no blank stands beside a line
  break (`Quotable`); each run is read as a whole (`QuotedScalar.read_singleQuoted`).
-/
import WorkflowPolicy.Proofs.Yaml.Lines
import WorkflowPolicy.Yaml.QuotedScalar

namespace WorkflowPolicy.Yaml.QuotedScalar

variable {cs rest : List Char} {line column index : Nat}

/-! ### Gaps -/

theorem gapAt_blanks (n : Nat) (hrest : NoGap rest) (line column index : Nat) :
    gapAt ⟨List.replicate n ' ' ++ rest, line, column, index⟩
      = .ok (List.replicate n ' ', ⟨rest, line, column + n, index + n⟩) := by
  simp only [gapAt, Cursor.span_blanks (p := isSpaceOrTab) rfl hrest.isSpaceOrTab,
    Cursor.lineBreak_of_noGap hrest]
  rfl

/-- Empty lines before a line that goes on. -/
theorem emptyLines_breaks {n : Nat} (h : Line n rest) (k : Nat) {steps : Nat} (hsteps : k < steps)
    (line index : Nat) :
    emptyLines steps
        ⟨List.replicate k '\n' ++ (List.replicate n ' ' ++ rest), line, 0, index⟩
      = .ok (List.replicate k '\n', ⟨rest, line + k, n, index + k + n⟩) := by
  induction k generalizing steps line index with
  | zero =>
    obtain ⟨steps, rfl⟩ := Nat.exists_eq_succ_of_ne_zero (Nat.ne_of_gt hsteps)
    simp only [List.replicate_zero, List.nil_append, emptyLines, h.noMark, Bool.false_eq_true,
      if_false, Cursor.skipWhile, Cursor.span_blanks (p := isSpaceOrTab) rfl h.start.isSpaceOrTab,
      Cursor.lineBreak_of_noGap h.start, Nat.zero_add, Nat.add_zero]
  | succ k ih =>
    obtain ⟨steps, rfl⟩ := Nat.exists_eq_succ_of_ne_zero (Nat.ne_of_gt (Nat.zero_lt_of_lt hsteps))
    have hmark := isDocumentMark_cons (x := '\n') (by decide) (by decide)
      (List.replicate k '\n' ++ (List.replicate n ' ' ++ rest))
    have hskip : ∀ more : List Char,
        (⟨'\n' :: more, line, 0, index⟩ : Cursor).skipWhile isSpaceOrTab
          = ⟨'\n' :: more, line, 0, index⟩ := fun _ => rfl
    have hbreak : ∀ more : List Char, (⟨'\n' :: more, line, 0, index⟩ : Cursor).lineBreak
        = (['\n'], ⟨more, line + 1, 0, index + 1⟩) := fun _ => rfl
    rw [List.replicate_succ, List.cons_append]
    simp only [emptyLines, hmark, Bool.false_eq_true, if_false, hskip, hbreak]
    have hline : line + 1 + k = line + (k + 1) := by omega
    have hindex : index + 1 + k = index + (k + 1) := by omega
    rw [ih (Nat.lt_of_succ_lt_succ hsteps), hline, hindex]
    rfl

/-- Of several line breaks the first one only ends its line. -/
theorem gapAt_breaks {n : Nat} (h : Line n rest) (k : Nat) :
    gapAt ⟨'\n' :: (List.replicate k '\n' ++ (List.replicate n ' ' ++ rest)), line, column, index⟩
      = .ok (if k = 0 then [' '] else List.replicate k '\n',
        ⟨rest, line + 1 + k, n, index + 1 + k + n⟩) := by
  have hspan : ∀ more : List Char,
      (⟨'\n' :: more, line, column, index⟩ : Cursor).span isSpaceOrTab
        = ([], ⟨'\n' :: more, line, column, index⟩) := fun _ => rfl
  have hbreak : ∀ more : List Char, (⟨'\n' :: more, line, column, index⟩ : Cursor).lineBreak
      = (['\n'], ⟨more, line + 1, 0, index + 1⟩) := fun _ => rfl
  have hsteps : k < (List.replicate k '\n' ++ (List.replicate n ' ' ++ rest)).length + 1 := by
    rw [List.length_append, List.length_replicate]
    omega
  simp only [gapAt, hspan, hbreak, emptyLines_breaks h k hsteps]
  cases k with
  | zero => rfl
  | succ k => rfl

/-! ### Steps -/

/-- A text in front of a closing quote is read as the given characters, up to what is behind
    the quote. -/
def Reads (double : Bool) (text : List Char) (ps : List CodePoint) (rest : List Char) : Prop :=
  ∀ line column index, ∃ line' column' index', line ≤ line'
    ∧ ∀ steps, text.length < steps → bodyAt double steps ⟨text, line, column, index⟩
      = .ok (ps, ⟨rest, line', column', index'⟩)

section Steps

variable {double : Bool} {steps : Nat} {x : Char} {text text' : List Char}
  {ps ps' : List CodePoint}

/-- One step in front of a text that is read.  It takes at least one character, which pays
    for the step. -/
theorem Reads.step (h : Reads double text ps rest) (hlength : text.length < text'.length)
    (hstep : ∀ line column index, ∃ line' column' index', line ≤ line'
      ∧ ∀ steps after, bodyAt double steps ⟨text, line', column', index'⟩ = .ok (ps, after) →
        bodyAt double (steps + 1) ⟨text', line, column, index⟩ = .ok (ps', after)) :
    Reads double text' ps' rest := by
  intro line column index
  obtain ⟨line₁, column₁, index₁, hline₁, hone⟩ := hstep line column index
  obtain ⟨line₂, column₂, index₂, hline₂, hbody⟩ := h line₁ column₁ index₁
  refine ⟨line₂, column₂, index₂, Nat.le_trans hline₁ hline₂, ?_⟩
  intro steps hsteps
  obtain ⟨steps, rfl⟩ := Nat.exists_eq_succ_of_ne_zero (Nat.ne_of_gt (Nat.zero_lt_of_lt hsteps))
  exact hone steps _ (hbody steps (Nat.lt_of_lt_of_le hlength (Nat.le_of_lt_succ hsteps)))

theorem Reads.char (h : Reads double text ps rest) (hx : isPrintableAscii x = true)
    (hblank : x ≠ ' ') (hquote : x ≠ quoteOf double) (hescape : double = true → x ≠ '\\') :
    Reads double (x :: text) (.char x :: ps) rest := by
  have hslash : (double && x == '\\') = false := by
    cases double with
    | false => rfl
    | true => simpa using hescape rfl
  refine h.step (Nat.lt_succ_self _) fun line column index =>
    ⟨line, column + 1, index + 1, Nat.le_refl _, ?_⟩
  intro steps after hbody
  rw [bodyAt]
  simp only [if_neg hquote, hslash, Bool.false_eq_true, if_false, isGap_of_printable hx hblank,
    Cursor.next_printable hx, hbody]
  rfl

theorem Reads.gap {blanks : List Char} (h : Reads double text ps rest) (hx : isGap x = true)
    (hquote : x ≠ quoteOf double) (hescape : x ≠ '\\') (hlength : text.length ≤ text'.length)
    (hgap : ∀ line column index, ∃ line' column' index', line ≤ line'
      ∧ gapAt ⟨x :: text', line, column, index⟩ = .ok (blanks, ⟨text, line', column', index'⟩)) :
    Reads double (x :: text') (blanks.map .char ++ ps) rest := by
  have hslash : (double && x == '\\') = false := by
    simp [hescape]
  refine h.step (Nat.lt_succ_of_le hlength) fun line column index => ?_
  obtain ⟨line', column', index', hline, hread⟩ := hgap line column index
  refine ⟨line', column', index', hline, ?_⟩
  intro steps after hbody
  rw [bodyAt]
  simp only [if_neg hquote, hslash, Bool.false_eq_true, if_false, hx, if_true, hread, bind,
    Except.bind, hbody]
  rfl

theorem Reads.blanks (h : Reads double text ps rest) (htext : NoGap text) (n : Nat) :
    Reads double (List.replicate (n + 1) ' ' ++ text)
      ((List.replicate (n + 1) ' ').map .char ++ ps) rest := by
  have hquote : ' ' ≠ quoteOf double := by
    cases double <;> decide
  refine h.gap rfl hquote (by decide) ?_ fun line column index =>
    ⟨line, column + (n + 1), index + (n + 1), Nat.le_refl _, gapAt_blanks (n + 1) htext _ _ _⟩
  rw [List.append_eq, List.length_append]
  exact Nat.le_add_left _ _

theorem Reads.breaks {n : Nat} (h : Reads double text ps rest) (hline : Line n text) (k : Nat) :
    Reads double ('\n' :: (List.replicate k '\n' ++ (List.replicate n ' ' ++ text)))
      ((if k = 0 then [' '] else List.replicate k '\n').map .char ++ ps) rest := by
  have hquote : '\n' ≠ quoteOf double := by
    cases double <;> decide
  refine h.gap rfl hquote (by decide) ?_ fun line column index =>
    ⟨line + 1 + k, n, index + 1 + k + n, by omega, gapAt_breaks hline k⟩
  rw [List.length_append, List.length_append]
  omega

end Steps

/-! ### Texts in single quotes -/

/-- Characters, runs of blanks and runs of line breaks, of which no two stand beside each
    other. -/
inductive Quotable : List Char → Prop
  | nil : Quotable []
  | char {x : Char} {cs : List Char} (hx : isPrintableAscii x = true) (hblank : x ≠ ' ')
      (hcs : Quotable cs) : Quotable (x :: cs)
  | blanks {cs : List Char} (n : Nat) (hgap : NoGap cs) (hcs : Quotable cs) :
      Quotable (List.replicate (n + 1) ' ' ++ cs)
  | breaks {cs : List Char} (n : Nat) (hgap : NoGap cs) (hcs : Quotable cs) :
      Quotable (List.replicate (n + 1) '\n' ++ cs)

theorem Quotable.blank (h : Quotable cs) (hbreak : cs.head? ≠ some '\n') :
    Quotable (' ' :: cs) := by
  cases h with
  | nil => exact .blanks 0 noGap_nil .nil
  | char hx hblank hcs =>
    exact .blanks 0 (by rintro y ⟨⟩; exact isGap_of_printable hx hblank) (.char hx hblank hcs)
  | blanks n hgap hcs => exact .blanks (n + 1) hgap hcs
  | breaks n hgap hcs => exact (hbreak rfl).elim

theorem Quotable.lineBreak (h : Quotable cs) (hblank : cs.head? ≠ some ' ') :
    Quotable ('\n' :: cs) := by
  cases h with
  | nil => exact .breaks 0 noGap_nil .nil
  | char hx hne hcs =>
    exact .breaks 0 (by rintro y ⟨⟩; exact isGap_of_printable hx hne) (.char hx hne hcs)
  | blanks n hgap hcs => exact (hblank rfl).elim
  | breaks n hgap hcs => exact .breaks (n + 1) hgap hcs

theorem quotable_of_canBeSingleQuoted (h : canBeSingleQuoted cs = true) : Quotable cs := by
  rw [canBeSingleQuoted, Bool.and_eq_true, Bool.not_eq_true'] at h
  obtain ⟨hshown, hblank⟩ := h
  induction cs with
  | nil => exact .nil
  | cons x cs ih =>
    rw [List.all_cons, Bool.and_eq_true, Bool.or_eq_true, beq_iff_eq] at hshown
    have hrest : Quotable cs := by
      refine ih hshown.2 ?_
      cases cs with
      | nil => rfl
      | cons y cs => exact (Bool.or_eq_false_iff.mp hblank).2
    have hbeside : ∀ y ∈ cs.head?, (x == ' ' && y == '\n' || x == '\n' && y == ' ') = false := by
      intro y hy
      cases cs with
      | nil => cases hy
      | cons z cs =>
        cases hy
        exact (Bool.or_eq_false_iff.mp hblank).1
    by_cases hx : x = ' '
    · subst hx
      refine hrest.blank fun hbreak => ?_
      cases hbeside _ hbreak
    · rcases hshown.1 with rfl | hprintable
      · refine hrest.lineBreak fun hgap => ?_
        cases hbeside _ hgap
      · exact .char hprintable hx hrest

section Breaks

variable {mark previous : Option Char} {p : Place}

theorem folded_break (cs : List Char) :
    folded mark previous p ('\n' :: cs)
      = (if previous = some '\n' then [] else ['\n'])
        ++ (if cs.head? = some '\n' then '\n' :: folded mark (some '\n') p.broken cs
          else newLine p.indent ++ folded mark (some '\n') p.broken cs) := by
  rw [folded, if_neg (by decide), if_pos rfl]
  by_cases hcs : cs.head? = some '\n'
  · simp only [if_pos hcs]
  · simp only [if_neg hcs, List.append_assoc]

/-- Line breaks behind a line break are written as they are. -/
theorem folded_more_breaks (mark : Option Char) (p : Place) (n : Nat)
    (hcs : cs.head? ≠ some '\n') :
    ∃ q : Place, q.indent = p.indent
      ∧ folded mark (some '\n') p (List.replicate (n + 1) '\n' ++ cs)
        = List.replicate (n + 1) '\n'
          ++ (List.replicate p.indent ' ' ++ folded mark (some '\n') q cs) := by
  induction n generalizing p with
  | zero =>
    refine ⟨p.broken, rfl, ?_⟩
    show folded mark (some '\n') p ('\n' :: cs) = _
    rw [folded_break, if_pos rfl, if_neg hcs]
    rfl
  | succ n ih =>
    obtain ⟨q, hq, hfolded⟩ := ih p.broken
    have hhead : (List.replicate (n + 1) '\n' ++ cs).head? = some '\n' := rfl
    refine ⟨q, hq, ?_⟩
    rw [List.replicate_succ, List.cons_append, folded_break, if_pos rfl, if_pos hhead, hfolded]
    rfl

/-- A run of line breaks is written with one more, and goes on in a new line. -/
theorem folded_breaks (mark : Option Char) (p : Place) (hprevious : previous ≠ some '\n') (n : Nat)
    (hcs : cs.head? ≠ some '\n') :
    ∃ q : Place, q.indent = p.indent
      ∧ folded mark previous p (List.replicate (n + 1) '\n' ++ cs)
        = '\n' :: (List.replicate (n + 1) '\n'
          ++ (List.replicate p.indent ' ' ++ folded mark (some '\n') q cs)) := by
  cases n with
  | zero =>
    refine ⟨p.broken, rfl, ?_⟩
    show folded mark previous p ('\n' :: cs) = _
    rw [folded_break, if_neg hprevious, if_neg hcs]
    rfl
  | succ n =>
    obtain ⟨q, hq, hfolded⟩ := folded_more_breaks mark p.broken n hcs
    have hhead : (List.replicate (n + 1) '\n' ++ cs).head? = some '\n' := rfl
    refine ⟨q, hq, ?_⟩
    rw [List.replicate_succ, List.cons_append, folded_break, if_neg hprevious, if_pos hhead,
      hfolded]
    rfl

end Breaks

theorem reads_singleQuote (hrest : rest.head? ≠ some '\'') :
    Reads false ('\'' :: rest) [] rest := by
  have hsingle : (!false && rest.head? == some '\'') = false := by
    simpa using hrest
  intro line column index
  refine ⟨line, column + 1, index + 1, Nat.le_refl _, ?_⟩
  intro steps hsteps
  obtain ⟨steps, rfl⟩ := Nat.exists_eq_succ_of_ne_zero (Nat.ne_of_gt (Nat.zero_lt_of_lt hsteps))
  rw [bodyAt]
  simp only [quoteOf, hsingle, Bool.false_eq_true, if_false, if_true,
    Cursor.next_printable (x := '\'') (by decide)]

theorem Reads.doubledQuote {text : List Char} {ps : List CodePoint}
    (h : Reads false text ps rest) :
    Reads false ('\'' :: '\'' :: text) (.char '\'' :: ps) rest := by
  refine h.step (Nat.lt_succ_of_lt (Nat.lt_succ_self _)) fun line column index =>
    ⟨line, column + 2, index + 2, Nat.le_refl _, ?_⟩
  intro steps after hbody
  have hskip : (⟨'\'' :: '\'' :: text, line, column, index⟩ : Cursor).skip 2
      = ⟨text, line, column + 2, index + 2⟩ :=
    Cursor.skip_printable (w := ['\'', '\'']) (List.all_eq_true.mp rfl) text line column index
  rw [bodyAt]
  simp only [quoteOf, Bool.false_eq_true, if_false, if_true, Bool.not_false, List.head?_cons,
    Bool.true_and, beq_self_eq_true, hskip, hbody]
  rfl

theorem noGap_folded (hgap : NoGap cs) (p : Place) (previous : Option Char)
    (rest : List Char) : NoGap (folded (some '\'') previous p cs ++ '\'' :: rest) := by
  cases cs with
  | nil =>
    rintro y ⟨⟩
    rfl
  | cons x cs =>
    have hx := hgap x rfl
    have hblank : x ≠ ' ' := fun h => by cases h ▸ hx
    have hfeed : x ≠ '\n' := fun h => by cases h ▸ hx
    obtain ⟨more, hmore⟩ := exists_folded_head hblank hfeed (some '\'') previous p cs
    rw [hmore]
    rintro y ⟨⟩
    exact hx

/-- What stands in single quotes is read up to the closing quote. -/
theorem reads_folded (hquotable : Quotable cs) (hrest : rest.head? ≠ some '\'') {p : Place}
    (hp : 0 < p.indent) {previous : Option Char}
    (hprevious : previous = some '\n' → cs.head? ≠ some '\n') :
    Reads false (folded (some '\'') previous p cs ++ '\'' :: rest) (cs.map .char) rest := by
  induction hquotable generalizing p previous with
  | nil => exact reads_singleQuote hrest
  | @char x cs hx hblank hcs ih =>
    have hfeed := ne_of_isPrintableAscii hx (y := '\n') (by decide)
    have hnext : some x = some '\n' → cs.head? ≠ some '\n' := fun h =>
      (hfeed (Option.some.inj h)).elim
    rw [folded, if_neg hblank, if_neg hfeed]
    by_cases hquote : x = '\''
    · subst hquote
      rw [if_pos rfl]
      exact (ih (p := p.advance 2) hp hnext).doubledQuote
    · rw [if_neg fun h => hquote (Option.some.inj h)]
      exact (ih (p := p.advance 1) hp hnext).char hx hblank hquote fun h => absurd h (by decide)
  | @blanks cs n hgap hcs ih =>
    have hnext : some ' ' = some '\n' → cs.head? ≠ some '\n' := fun h => absurd h (by decide)
    obtain ⟨q, hq, hfolded⟩ := folded_blanks (some '\'') p previous n cs
    have hnoGap := noGap_folded hgap q (some ' ') rest
    have hread := ih (hq ▸ hp : 0 < q.indent) hnext
    -- the only blank of a run may have become a line break, which is read as a blank again
    rcases hfolded with hraw | ⟨rfl, -, hbroken⟩
    · rw [hraw, List.append_assoc, List.map_append]
      exact hread.blanks hnoGap n
    · rw [hbroken, List.append_assoc, List.map_append]
      exact hread.breaks (line_of_pos hp hnoGap) 0
  | @breaks cs n hgap hcs ih =>
    have hhead : cs.head? ≠ some '\n' := fun h => by cases hgap _ h
    have hprevious' : previous ≠ some '\n' := fun h => hprevious h rfl
    obtain ⟨q, hq, hfolded⟩ := folded_breaks (some '\'') p hprevious' n hhead
    have hnoGap := noGap_folded hgap q (some '\n') rest
    have hread : Reads false (folded (some '\'') (some '\n') q cs ++ '\'' :: rest)
        (cs.map .char) rest :=
      ih (hq ▸ hp) fun _ => hhead
    rw [hfolded, List.cons_append, List.append_assoc, List.append_assoc, List.map_append]
    exact hread.breaks (line_of_pos hp hnoGap) (n + 1)

theorem read_singleQuoted (h : canBeSingleQuoted cs = true) (hrest : rest.head? ≠ some '\'')
    {p : Place} (hp : 0 < p.indent) (line column index : Nat) :
    ∃ line' column' index', line ≤ line'
      ∧ read false ⟨folded (some '\'') none p cs ++ '\'' :: rest, line, column, index⟩
        = .ok (.ofChars cs, ⟨rest, line', column', index'⟩) := by
  have hreads : Reads false (folded (some '\'') none p cs ++ '\'' :: rest)
      (cs.map .char) rest :=
    reads_folded (quotable_of_canBeSingleQuoted h) hrest hp nofun
  obtain ⟨line', column', index', hline, hbody⟩ := hreads line column index
  refine ⟨line', column', index', hline, ?_⟩
  rw [read, hbody _ (Nat.lt_succ_self _)]
  rfl

end WorkflowPolicy.Yaml.QuotedScalar
