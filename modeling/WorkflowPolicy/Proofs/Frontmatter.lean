/-
  WorkflowPolicy/Proofs/Frontmatter.lean
  ======================================
  **The block of a Markdown file.**  A delimiter is a line with three dashes and nothing but
  blanks around them (`isDelimiter_iff`).  A text opens with a delimiter or it has no
  frontmatter; the lines between this one and the next are its block, and without a next
  one the block does not end.  Nothing behind the second delimiter is looked at, so whatever
  body follows, the lines that were written between delimiters come back
  (`split_acceptsExactly`).
-/
import Mathlib.Data.List.TakeWhile
import WorkflowPolicy.Frontmatter
import WorkflowPolicy.Proofs.Text.Lines

namespace WorkflowPolicy

/-! ### Stripped texts -/

namespace Text

variable {before after core cs : List CodePoint}

theorem dropBlanks_append (h : ∀ c ∈ before, isBlank c = true) :
    dropBlanks (before ++ cs) = dropBlanks cs :=
  List.dropWhile_append_of_pos h

theorem dropBlanks_of_forall (hne : core ≠ []) (h : ∀ c ∈ core, isBlank c = false)
    (cs : List CodePoint) : dropBlanks (core ++ cs) = core ++ cs := by
  cases core with
  | nil => exact absurd rfl hne
  | cons c core => exact List.dropWhile_cons_of_neg (by simp [h c List.mem_cons_self])

/-- A text is some blanks and what `dropBlanks` leaves of it. -/
theorem exists_blanks_append (cs : List CodePoint) :
    ∃ blanks, (∀ c ∈ blanks, isBlank c = true) ∧ cs = blanks ++ dropBlanks cs := by
  refine ⟨cs.takeWhile isBlank, ?_, List.takeWhile_append_dropWhile.symm⟩
  intro c hc
  exact List.mem_takeWhile_imp hc

/-- Stripping leaves the text that stands between blanks. -/
theorem strip_eq_iff {s t : Text} (hne : t.toList ≠ [])
    (h : ∀ c ∈ t.toList, isBlank c = false) :
    strip s = t ↔ ∃ before after, (∀ c ∈ before, isBlank c = true)
      ∧ (∀ c ∈ after, isBlank c = true) ∧ s.toList = before ++ t.toList ++ after := by
  rw [← toList_inj, strip]
  generalize s.toList = cs, t.toList = core at hne h ⊢
  constructor
  · rintro rfl
    obtain ⟨before, hbefore, hcs⟩ := exists_blanks_append cs
    obtain ⟨after, hafter, hrest⟩ := exists_blanks_append (dropBlanks cs).reverse
    refine ⟨before, after.reverse, hbefore, ?_, ?_⟩
    · intro c hc
      exact hafter c (List.mem_reverse.mp hc)
    · rw [List.append_assoc, ← List.reverse_append, ← hrest, List.reverse_reverse,
        ← hcs]
  · rintro ⟨before, after, hbefore, hafter, rfl⟩
    have hreverse : ∀ c ∈ after.reverse, isBlank c = true := by
      intro c hc
      exact hafter c (List.mem_reverse.mp hc)
    -- the core has no blank at either end, so stripping stops at it
    have hcore : dropBlanks core.reverse = core.reverse := by
      have hnonblank : ∀ c ∈ core.reverse, isBlank c = false := by
        intro c hc
        exact h c (List.mem_reverse.mp hc)
      simpa using dropBlanks_of_forall (List.reverse_ne_nil_iff.mpr hne) hnonblank []
    rw [List.append_assoc, dropBlanks_append hbefore, dropBlanks_of_forall hne h,
      List.reverse_append, dropBlanks_append hreverse, hcore, List.reverse_reverse]

end Text

namespace Frontmatter

open Text (Breaks Unbroken joinLines lines)

variable {text line first last : Text} {ls rest : List Text}

/-! ### Delimiters -/

/-- Three dashes with nothing but blanks around them. -/
def Delimits (line : Text) : Prop :=
  ∃ before after, (∀ c ∈ before, Text.isBlank c = true) ∧ (∀ c ∈ after, Text.isBlank c = true)
    ∧ line.toList = before ++ delimiter.toList ++ after

theorem isDelimiter_iff : isDelimiter line = true ↔ Delimits line := by
  have hdashes : ∀ c ∈ delimiter.toList, Text.isBlank c = false := by
    have hall : delimiter.toList.all (!Text.isBlank ·) = true := by decide
    simpa using hall
  rw [isDelimiter, beq_iff_eq]
  exact Text.strip_eq_iff (by decide) hdashes

theorem isDelimiter_eq_false_iff : isDelimiter line = false ↔ ¬ Delimits line := by
  rw [← isDelimiter_iff, Bool.not_eq_true]

/-! ### Texts with and without a block -/

def HasLines (text : Text) (ls : List Text) : Prop := Breaks text.toList (ls.map Text.toList)

/-- The first line is a delimiter. -/
def Opens (text : Text) : Prop := ∃ first rest, HasLines text (first :: rest) ∧ Delimits first

/-- A line after the first one is a delimiter. -/
def Closes (text : Text) : Prop :=
  ∃ first rest, HasLines text (first :: rest) ∧ ∃ line ∈ rest, Delimits line

/-- The lines between the first line and the next delimiter. -/
def Encloses (text : Text) (ls : List Text) : Prop :=
  ∃ first last rest, HasLines text (first :: (ls ++ last :: rest)) ∧ Delimits first
    ∧ (∀ line ∈ ls, ¬ Delimits line) ∧ Delimits last

theorem split_of_not_opens (h : ¬ Opens text) : split text = .error .noStart := by
  cases hlines : lines text with
  | nil => rw [split, hlines]
  | cons first rest =>
    have hfirst : isDelimiter first = false := by
      rw [isDelimiter_eq_false_iff]
      intro hdelimits
      exact h ⟨first, rest, Text.lines_eq_iff.mp hlines, hdelimits⟩
    rw [split, hlines]
    simp [hfirst]

theorem split_of_not_closes (ho : Opens text) (hc : ¬ Closes text) :
    split text = .error .unterminated := by
  obtain ⟨first, rest, hlines, hfirst⟩ := ho
  have hblock : rest.takeWhile (!isDelimiter ·) = rest := by
    rw [List.takeWhile_eq_self_iff]
    intro line hline
    rw [Bool.not_eq_true', isDelimiter_eq_false_iff]
    intro hdelimits
    exact hc ⟨first, rest, hlines, line, hline, hdelimits⟩
  rw [split, Text.lines_eq_iff.mpr hlines]
  simp [isDelimiter_iff.mpr hfirst, hblock]

theorem split_of_encloses (h : Encloses text ls) : split text = .ok (joinLines ls) := by
  obtain ⟨first, last, rest, hlines, hfirst, hls, hlast⟩ := h
  have hblock : (ls ++ last :: rest).takeWhile (!isDelimiter ·) = ls := by
    rw [List.takeWhile_append_of_pos, List.takeWhile_cons_of_neg, List.append_nil]
    · simp [isDelimiter_iff.mpr hlast]
    · intro line hline
      rw [Bool.not_eq_true', isDelimiter_eq_false_iff]
      exact hls line hline
  rw [split, Text.lines_eq_iff.mpr hlines]
  simp [isDelimiter_iff.mpr hfirst, hblock]

/-- The first delimiter after the first line ends the block. -/
theorem exists_encloses (ho : Opens text) (hc : Closes text) : ∃ ls, Encloses text ls := by
  obtain ⟨first, rest, hlines, hfirst⟩ := ho
  obtain ⟨first', rest', hlines', line, hline, hdelimits⟩ := hc
  have hsame : first :: rest = first' :: rest' :=
    (Text.lines_eq_iff.mpr hlines).symm.trans (Text.lines_eq_iff.mpr hlines')
  obtain ⟨rfl, rfl⟩ := List.cons.inj hsame
  have hsome : (rest.find? isDelimiter).isSome = true :=
    List.find?_isSome.mpr ⟨line, hline, isDelimiter_iff.mpr hdelimits⟩
  obtain ⟨last, hfound⟩ := Option.isSome_iff_exists.mp hsome
  obtain ⟨hlast, ls, tail, rfl, hls⟩ := List.find?_eq_some_iff_append.mp hfound
  refine ⟨ls, first, last, tail, hlines, hfirst, ?_, isDelimiter_iff.mp hlast⟩
  intro line hline
  rw [← isDelimiter_eq_false_iff, ← Bool.not_eq_true']
  exact hls line hline

theorem Encloses.unbroken (h : Encloses text ls) : ∀ line ∈ ls, Unbroken line.toList := by
  obtain ⟨first, last, rest, hlines, -⟩ := h
  intro line hline
  apply Text.unbroken_of_mem_lines
  rw [Text.lines_eq_iff.mpr hlines]
  exact List.mem_cons_of_mem _ (List.mem_append_left _ hline)

theorem Encloses.not_delimits (h : Encloses text ls) : ∀ line ∈ ls, ¬ Delimits line := by
  obtain ⟨first, last, rest, -, -, hls, -⟩ := h
  exact hls

/-! ### Splitting -/

/-- A text that starts with the given lines between delimiters. -/
def written (ls : List Text) (body : Text) : Text :=
  delimiter ++ "\n"
    ++ ls.foldr (fun (line rest : Text) => line ++ "\n" ++ rest) (delimiter ++ "\n" ++ body)

theorem delimits_delimiter : Delimits delimiter := ⟨[], [], nofun, nofun, rfl⟩

theorem lines_written (h : ∀ line ∈ ls, Unbroken line.toList) (body : Text) :
    lines (written ls body) = delimiter :: (ls ++ delimiter :: lines body) := by
  have hdelimiter : Unbroken delimiter.toList := by decide
  rw [written, Text.lines_append hdelimiter]
  refine congrArg (delimiter :: ·) ?_
  induction ls with
  | nil => exact Text.lines_append hdelimiter body
  | cons line ls ih =>
    rw [List.forall_mem_cons] at h
    rw [List.foldr_cons, Text.lines_append h.1, ih h.2]
    rfl

theorem encloses_written (h : ∀ line ∈ ls, Unbroken line.toList ∧ ¬ Delimits line)
    (body : Text) : Encloses (written ls body) ls := by
  have hlines := lines_written (fun line hline => (h line hline).1) body
  exact ⟨delimiter, delimiter, lines body, Text.lines_eq_iff.mp hlines, delimits_delimiter,
    fun line hline => (h line hline).2, delimits_delimiter⟩

/-- How a text is split, told by its lines alone. -/
structure SplitsByLines (text : Text) : Prop where
  noStart : split text = .error .noStart ↔ ¬ Opens text
  unterminated : split text = .error .unterminated ↔ Opens text ∧ ¬ Closes text
  /-- In any other case there is a block, and no line of it is a delimiter. -/
  block : Opens text → Closes text → ∃ ls, Encloses text ls ∧ split text = .ok (joinLines ls)
    ∧ ∀ ls', HasLines (joinLines ls) ls' → ∀ line ∈ ls', ¬ Delimits line

theorem splitsByLines (text : Text) : SplitsByLines text := by
  by_cases ho : Opens text
  · by_cases hc : Closes text
    · obtain ⟨ls, hls⟩ := exists_encloses ho hc
      have hsplit := split_of_encloses hls
      refine ⟨?_, ?_, ?_⟩
      · simp [hsplit, ho]
      · simp [hsplit, hc]
      · intro _ _
        refine ⟨ls, hls, hsplit, ?_⟩
        intro ls' hls' line hline
        rw [← Text.lines_eq_iff.mpr hls'] at hline
        have hmem : line ∈ ls := Text.mem_of_mem_lines_joinLines hls.unbroken hline
        exact hls.not_delimits line hmem
    · have hsplit := split_of_not_closes ho hc
      refine ⟨?_, ?_, fun _ h => absurd h hc⟩
      · simp [hsplit, ho]
      · simp [hsplit, ho, hc]
  · have hsplit := split_of_not_opens ho
    refine ⟨?_, ?_, fun h => absurd h ho⟩
    · simp [hsplit, ho]
    · simp [hsplit, ho]

/-- **Splitting accepts exactly its format.**  Lines that were written between delimiters
    come back, whatever body follows them, and every text is told by its delimiters. -/
theorem split_acceptsExactly :
    (∀ (ls : List Text) (body : Text),
      (∀ line ∈ ls, Unbroken line.toList ∧ ¬ Delimits line) →
        split (written ls body) = .ok (joinLines ls))
    ∧ ∀ text, SplitsByLines text := by
  constructor
  · intro ls body h
    exact split_of_encloses (encloses_written h body)
  · exact splitsByLines

/-- A blank line and dashes within a line belong to the block, a delimiter of the body does
    not. -/
theorem split_acceptsExactly_blankLine :
    (∀ line ∈ (["on: push", "", "note: ---"] : List Text),
      Unbroken line.toList ∧ ¬ Delimits line)
    ∧ split (written ["on: push", "", "note: ---"] "a\r\n --- \n") = .ok "on: push\n\nnote: ---"
    ∧ ¬ Opens "on: push\n---\n" ∧ Opens "---\non: push\n" ∧ ¬ Closes "---\non: push\n" := by
  obtain ⟨hwritten, hsplits⟩ := split_acceptsExactly
  have hls : ∀ line ∈ (["on: push", "", "note: ---"] : List Text),
      Unbroken line.toList ∧ ¬ Delimits line := by
    have hunbroken : ∀ line ∈ (["on: push", "", "note: ---"] : List Text),
        Unbroken line.toList := by
      decide
    have hplain : ∀ line ∈ (["on: push", "", "note: ---"] : List Text),
        isDelimiter line = false := by
      decide +kernel
    intro line hline
    exact ⟨hunbroken line hline, isDelimiter_eq_false_iff.mp (hplain line hline)⟩
  have hunended := (hsplits "---\non: push\n").unterminated.mp (by decide +kernel)
  refine ⟨hls, hwritten _ _ hls, ?_, hunended⟩
  exact (hsplits "on: push\n---\n").noStart.mp (by decide +kernel)

end Frontmatter

end WorkflowPolicy
