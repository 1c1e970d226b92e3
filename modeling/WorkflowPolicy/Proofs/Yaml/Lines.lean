/-
  WorkflowPolicy/Proofs/Yaml/Lines.lean
  =====================================
  **Lines of written text.**  What is written consists of printable characters of ASCII and
  line feeds, so a cursor moves by one column at a time and starts over at a line feed.

  A written line starts with blanks up to a column, and behind them stands the next
  character that counts (`Line`).  A line is broken only in the place of a single blank:
  of a run of blanks, all are written, or the one that there is becomes a line break
  (`folded_blanks`).
-/
import WorkflowPolicy.Yaml.Cursor
import WorkflowPolicy.Yaml.Writer

namespace WorkflowPolicy.Yaml

variable {x : Char} {w rest : List Char} {line column index : Nat}

/-! ### Printable characters -/

/-- All characters are printable in ASCII. -/
def Printable (cs : List Char) : Prop := ∀ x ∈ cs, isPrintableAscii x = true

@[simp] theorem printable_nil : Printable [] := List.forall_mem_nil _

@[simp] theorem printable_cons {cs : List Char} :
    Printable (x :: cs) ↔ isPrintableAscii x = true ∧ Printable cs := List.forall_mem_cons

@[simp] theorem printable_append {cs ds : List Char} :
    Printable (cs ++ ds) ↔ Printable cs ∧ Printable ds := List.forall_mem_append

theorem ne_of_isPrintableAscii {y : Char} (h : isPrintableAscii x = true)
    (hy : isPrintableAscii y = false) : x ≠ y := by
  rintro rfl
  rw [h] at hy
  cases hy

theorem isLineBreak_of_printable (h : isPrintableAscii x = true) : isLineBreak x = false := by
  have hfeed := ne_of_isPrintableAscii h (y := '\n') (by decide)
  have hline := ne_of_isPrintableAscii h (y := '\u2028') (by decide)
  have hparagraph := ne_of_isPrintableAscii h (y := '\u2029') (by decide)
  simp [isLineBreak, hfeed, hline, hparagraph]

theorem isGap_of_printable (h : isPrintableAscii x = true) (hblank : x ≠ ' ') :
    isGap x = false := by
  have htab := ne_of_isPrintableAscii h (y := '\t') (by decide)
  simp [isGap, isSpaceOrTab, isLineBreak_of_printable h, hblank, htab]

/-- No gap comes next. -/
def NoGap (rest : List Char) : Prop := ∀ x ∈ rest.head?, isGap x = false

theorem noGap_nil : NoGap [] := by simp [NoGap]

theorem NoGap.isLineBreak (h : NoGap rest) : ∀ x ∈ rest.head?, isLineBreak x = false :=
  fun x hx => (Bool.or_eq_false_iff.mp (h x hx)).2

theorem NoGap.isSpaceOrTab (h : NoGap rest) : ∀ x ∈ rest.head?, isSpaceOrTab x = false :=
  fun x hx => (Bool.or_eq_false_iff.mp (h x hx)).1

theorem NoGap.ne_blank (h : NoGap rest) : ∀ x ∈ rest.head?, (x == ' ') = false :=
  fun x hx => (Bool.or_eq_false_iff.mp (h.isSpaceOrTab x hx)).1

/-! ### Moves -/

namespace Cursor

theorem next_printable (h : isPrintableAscii x = true) :
    (⟨x :: rest, line, column, index⟩ : Cursor).next = ⟨rest, line, column + 1, index + 1⟩ := by
  have hmark := ne_of_isPrintableAscii h (y := byteOrderMark) (by decide)
  simp [next, isLineBreak_of_printable h, hmark]

theorem skip_printable (h : Printable w) (rest : List Char) (line column index : Nat) :
    (⟨w ++ rest, line, column, index⟩ : Cursor).skip w.length
      = ⟨rest, line, column + w.length, index + w.length⟩ := by
  induction w generalizing column index with
  | nil => rfl
  | cons x w ih =>
    obtain ⟨hx, hw⟩ := printable_cons.mp h
    rw [List.length_cons, skip, List.cons_append, next_printable hx, ih hw]
    simp only [Nat.add_assoc, Nat.add_comm 1]

theorem printable_replicate (n : Nat) : Printable (List.replicate n ' ') := by
  intro x hx
  rw [List.eq_of_mem_replicate hx]
  decide

theorem span_blanks {p : Char → Bool} (hp : p ' ' = true) (hrest : ∀ x ∈ rest.head?, p x = false)
    (n : Nat) :
    (⟨List.replicate n ' ' ++ rest, line, column, index⟩ : Cursor).span p
      = (List.replicate n ' ', ⟨rest, line, column + n, index + n⟩) := by
  have htaken : (List.replicate n ' ' ++ rest).takeWhile p = List.replicate n ' ' := by
    induction n with
    | zero =>
      cases rest with
      | nil => rfl
      | cons x rest => simp [hrest x rfl]
    | succ n ih => simp [List.replicate_succ, hp, ih]
  have hskip : (⟨List.replicate n ' ' ++ rest, line, column, index⟩ : Cursor).skip n
      = ⟨rest, line, column + n, index + n⟩ := by
    simpa using skip_printable (printable_replicate n) rest line column index
  simp only [span, htaken, List.length_replicate, hskip]

theorem lineBreak_of_noGap (h : NoGap rest) :
    (⟨rest, line, column, index⟩ : Cursor).lineBreak = ([], ⟨rest, line, column, index⟩) := by
  cases rest with
  | nil => rfl
  | cons x rest => simp [lineBreak, h.isLineBreak x rfl]

end Cursor

/-! ### Lines -/

/-- What stands behind the blanks of a line: a character that is no gap, or the end, and no
    mark of a document starts the line. -/
structure Line (column : Nat) (rest : List Char) : Prop where
  start : NoGap rest
  noMark : isDocumentMark (List.replicate column ' ' ++ rest) = false

theorem isDocumentMark_cons (hdash : x ≠ '-') (hpoint : x ≠ '.') (cs : List Char) :
    isDocumentMark (x :: cs) = false := by
  match cs with
  | [] | [_] => rfl
  | b :: c :: rest => simp [isDocumentMark, hdash, hpoint]

/-- No document starts behind a blank. -/
theorem line_of_pos (hcolumn : 0 < column) (hstart : NoGap rest) : Line column rest := by
  obtain ⟨n, rfl⟩ := Nat.exists_eq_succ_of_ne_zero (Nat.ne_of_gt hcolumn)
  exact ⟨hstart, isDocumentMark_cons (by decide) (by decide) _⟩

/-! ### Folding -/

theorem Place.advance_advance (p : Place) (m n : Nat) :
    (p.advance m).advance n = p.advance (m + n) := by
  simp [advance, Nat.add_assoc]

section Folding

variable {mark : Option Char} {p : Place} {cs : List Char}

/-- Characters of a word are written as they are. -/
theorem folded_word (hw : ∀ x ∈ w, x ≠ ' ' ∧ x ≠ '\n' ∧ some x ≠ mark) (hne : w ≠ [])
    (previous : Option Char) (cs : List Char) :
    ∃ y, y ≠ '\n' ∧ folded mark previous p (w ++ cs)
      = w ++ folded mark (some y) (p.advance w.length) cs := by
  induction w generalizing previous p with
  | nil => exact (hne rfl).elim
  | cons x w ih =>
    obtain ⟨⟨hblank, hfeed, hmark⟩, hw⟩ := List.forall_mem_cons.mp hw
    have hfirst : folded mark previous p (x :: w ++ cs)
        = x :: folded mark (some x) (p.advance 1) (w ++ cs) := by
      rw [List.cons_append, folded, if_neg hblank, if_neg hfeed, if_neg hmark]
    rw [hfirst]
    cases w with
    | nil => exact ⟨x, hfeed, rfl⟩
    | cons x' w =>
      obtain ⟨y, hyfeed, hy⟩ := ih hw (List.cons_ne_nil _ _) (some x)
      refine ⟨y, hyfeed, ?_⟩
      rw [hy, Place.advance_advance, Nat.add_comm 1]
      rfl

theorem folded_more_blanks (n : Nat) (cs : List Char) :
    folded mark (some ' ') p (List.replicate n ' ' ++ cs)
      = List.replicate n ' ' ++ folded mark (some ' ') (p.advance n) cs := by
  induction n generalizing p with
  | zero => rfl
  | succ n ih =>
    have hbreak : ∀ rest, isBreakable (some ' ') rest = false := by
      intro rest
      simp [isBreakable]
    rw [List.replicate_succ, List.cons_append, folded, if_pos rfl, hbreak, Bool.false_and,
      if_neg Bool.false_ne_true, ih, Place.advance_advance, Nat.add_comm 1, List.cons_append]

/-- Of a run of blanks all are written, or the only one becomes a line break. -/
theorem folded_blanks (mark : Option Char) (p : Place) (previous : Option Char) (n : Nat)
    (cs : List Char) :
    ∃ q : Place, q.indent = p.indent
      ∧ (folded mark previous p (List.replicate (n + 1) ' ' ++ cs)
          = List.replicate (n + 1) ' ' ++ folded mark (some ' ') q cs
        ∨ n = 0 ∧ cs ≠ [] ∧ folded mark previous p (List.replicate (n + 1) ' ' ++ cs)
          = newLine p.indent ++ folded mark (some ' ') q cs) := by
  rw [List.replicate_succ, List.cons_append, folded, if_pos rfl]
  cases hbreak : isBreakable previous (List.replicate n ' ' ++ cs) && p.isFull with
  | false =>
    refine ⟨(p.advance 1).advance n, rfl, .inl ?_⟩
    rw [if_neg Bool.false_ne_true, folded_more_blanks, List.cons_append]
  | true =>
    rw [Bool.and_eq_true, isBreakable] at hbreak
    cases n with
    | succ n => simp [List.replicate_succ] at hbreak
    | zero =>
      refine ⟨p.broken, rfl, .inr ⟨rfl, ?_, by rw [if_pos rfl]; rfl⟩⟩
      rintro rfl
      simp at hbreak

/-- What starts with no gap is written with its first character in front. -/
theorem exists_folded_head (hblank : x ≠ ' ') (hfeed : x ≠ '\n') (mark previous : Option Char)
    (p : Place) (cs : List Char) : ∃ rest, folded mark previous p (x :: cs) = x :: rest := by
  rw [folded, if_neg hblank, if_neg hfeed]
  split
  · exact ⟨_, rfl⟩
  · exact ⟨_, rfl⟩

theorem length_le_length_folded (mark previous : Option Char) (p : Place) (cs : List Char) :
    cs.length ≤ (folded mark previous p cs).length := by
  induction cs generalizing previous p with
  | nil => exact Nat.le_refl _
  | cons x cs ih =>
    -- something stands for every character
    have hstep : ∀ (more : List Char) (q : Place), more ≠ [] →
        (x :: cs).length ≤ (more ++ folded mark (some x) q cs).length := by
      intro more q hmore
      have hcs := ih (some x) q
      have hpos := List.length_pos_iff.mpr hmore
      rw [List.length_cons, List.length_append]
      omega
    rw [folded]
    split
    · split
      · exact hstep _ _ (List.cons_ne_nil _ _)
      · exact hstep [x] _ (List.cons_ne_nil _ _)
    · split
      · have hfeed : ∀ first : List Char, first ++ ['\n'] ≠ [] := by simp
        have hline : ∀ first : List Char, first ++ newLine p.indent ≠ [] := by simp [newLine]
        show _ ≤ (if cs.head? = some '\n' then _ else _ : List Char).length
        split
        · simpa using hstep _ p.broken (hfeed _)
        · exact hstep _ p.broken (hline _)
      · split
        · exact hstep [x, x] _ (List.cons_ne_nil _ _)
        · exact hstep [x] _ (List.cons_ne_nil _ _)

end Folding

end WorkflowPolicy.Yaml
