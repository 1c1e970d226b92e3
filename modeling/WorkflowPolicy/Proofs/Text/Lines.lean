/-
  WorkflowPolicy/Proofs/Text/Lines.lean
  =====================================
  **Lines that are put together come apart again.**  The lines of a text are told by a rule
  that names the eleven forms of a line end (`lines_eq_iff`).  A line that holds no line end
  is cut off before the next line feed, whatever follows (`lines_append`), and every line
  that is cut off holds none (`unbroken_of_mem_lines`).  So lines that are joined are the
  lines of the text exactly if none of them can be broken (`lines_joinLines_iff`).  Printable
  characters of ASCII break no line, and neither do escapes.
-/
import Mathlib.Data.List.Basic
import WorkflowPolicy.Text.Escape
import WorkflowPolicy.Text.Lines

namespace WorkflowPolicy.Text

/-- No character ends a line. -/
def Unbroken (cs : List CodePoint) : Prop := ∀ c ∈ cs, isLineEnd c = false

instance (cs : List CodePoint) : Decidable (Unbroken cs) :=
  decidable_of_iff (cs.all (!isLineEnd ·) = true) (by simp [Unbroken])

@[simp] theorem unbroken_nil : Unbroken [] := nofun

@[simp] theorem unbroken_cons {c : CodePoint} {cs : List CodePoint} :
    Unbroken (c :: cs) ↔ isLineEnd c = false ∧ Unbroken cs :=
  List.forall_mem_cons

@[simp] theorem unbroken_append {cs ds : List CodePoint} :
    Unbroken (cs ++ ds) ↔ Unbroken cs ∧ Unbroken ds :=
  List.forall_mem_append

@[simp] theorem unbroken_reverse {cs : List CodePoint} : Unbroken cs.reverse ↔ Unbroken cs := by
  simp [Unbroken]

/-! ### The rule -/

/-- The forms that end a line. -/
def lineEnds : List (List CodePoint) :=
  [['\n'], ['\r'], ['\r', '\n'], ['\x0b'], ['\x0c'], ['\x1c'], ['\x1d'], ['\x1e'], ['\x85'],
   ['\u2028'], ['\u2029']]

/-- A text and its lines.  A line reaches up to the first line end; behind the last one there
    is a line only if something stands there.  A carriage return before a line feed does not
    end a line by itself. -/
inductive Breaks : List CodePoint → List (List CodePoint) → Prop where
  | nothing : Breaks [] []
  | last {line : List CodePoint} (hne : line ≠ []) (h : Unbroken line) : Breaks line [line]
  | line {line ending rest : List CodePoint} {ls : List (List CodePoint)} (h : Unbroken line)
      (hending : ending ∈ lineEnds) (hpair : ending = ['\r'] → rest.head? ≠ some '\n')
      (hrest : Breaks rest ls) : Breaks (line ++ (ending ++ rest)) (line :: ls)

/-! ### Cutting lines off -/

variable {started : Option (List CodePoint)} {c : CodePoint} {cs rest ending : List CodePoint}

theorem mem_lineEnds :
    ending ∈ lineEnds ↔ ending = ['\r', '\n'] ∨ ∃ c, isLineEnd c = true ∧ ending = [c] := by
  have hforms : ∀ ending ∈ lineEnds,
      ending = ['\r', '\n'] ∨ ending.length = 1 ∧ ending.all isLineEnd = true := by
    decide
  constructor
  · intro h
    rcases hforms ending h with hpair | ⟨hlength, hend⟩
    · exact .inl hpair
    · obtain ⟨c, rfl⟩ := List.length_eq_one_iff.mp hlength
      exact .inr ⟨c, by simpa using hend, rfl⟩
  · rintro (rfl | ⟨c, hc, rfl⟩)
    · decide
    · simpa [isLineEnd, lineEnds, or_assoc] using hc

theorem linesFrom_pair : linesFrom started ('\r' :: '\n' :: rest)
    = (started.getD []).reverse :: linesFrom none rest := by
  cases started with
  | none => rfl
  | some begun => rfl

theorem linesFrom_single (h : c = '\r' → rest.head? ≠ some '\n') : linesFrom started (c :: rest)
    = if isLineEnd c then (started.getD []).reverse :: linesFrom none rest
      else linesFrom (some (c :: started.getD [])) rest := by
  rw [linesFrom.eq_def]
  split
  · cases ‹_ :: _ = _›
  · cases ‹_ :: _ = _›
  · rename_i hcons
    obtain ⟨rfl, rfl⟩ := List.cons.inj hcons
    exact absurd rfl (h rfl)
  · rename_i hcons
    obtain ⟨rfl, rfl⟩ := List.cons.inj hcons
    rfl

theorem linesFrom_ending (hending : ending ∈ lineEnds)
    (hpair : ending = ['\r'] → rest.head? ≠ some '\n') :
    linesFrom started (ending ++ rest) = (started.getD []).reverse :: linesFrom none rest := by
  rcases mem_lineEnds.mp hending with rfl | ⟨c, hc, rfl⟩
  · exact linesFrom_pair
  · have hsingle : c = '\r' → rest.head? ≠ some '\n' := by
      rintro rfl
      exact hpair rfl
    rw [List.singleton_append, linesFrom_single hsingle, if_pos hc]

theorem linesFrom_of_isLineEnd_eq_false (h : isLineEnd c = false) :
    linesFrom started (c :: rest) = linesFrom (some (c :: started.getD [])) rest := by
  have hreturn : c = '\r' → rest.head? ≠ some '\n' := by
    rintro rfl
    cases h
  rw [linesFrom_single hreturn, h]
  rfl

theorem linesFrom_append (h : Unbroken cs) (hending : ending ∈ lineEnds)
    (hpair : ending = ['\r'] → rest.head? ≠ some '\n') :
    linesFrom started (cs ++ (ending ++ rest))
      = ((started.getD []).reverse ++ cs) :: linesFrom none rest := by
  induction cs generalizing started with
  | nil => rw [List.nil_append, List.append_nil, linesFrom_ending hending hpair]
  | cons c cs ih =>
    rw [unbroken_cons] at h
    rw [List.cons_append, linesFrom_of_isLineEnd_eq_false h.1, ih h.2]
    simp

theorem linesFrom_some {begun : List CodePoint} (h : Unbroken cs) :
    linesFrom (some begun) cs = [begun.reverse ++ cs] := by
  induction cs generalizing begun with
  | nil => rw [linesFrom.eq_def, List.append_nil]
  | cons c cs ih =>
    rw [unbroken_cons] at h
    rw [linesFrom_of_isLineEnd_eq_false h.1, ih h.2]
    simp

theorem breaks_linesFrom (started : Option (List CodePoint)) (cs : List CodePoint)
    (hne : ∀ begun ∈ started, begun ≠ []) (h : Unbroken (started.getD [])) :
    Breaks ((started.getD []).reverse ++ cs) (linesFrom started cs) := by
  fun_induction linesFrom started cs with
  | case1 => exact .nothing
  | case2 begun =>
    rw [List.append_nil]
    refine .last ?_ (unbroken_reverse.mpr h)
    exact fun hnil => hne begun rfl (List.reverse_eq_nil_iff.mp hnil)
  | case3 started rest ih =>
    -- a carriage return takes the line feed behind it along
    have hrest : Breaks rest (linesFrom none rest) := ih nofun unbroken_nil
    have hpair : (['\r', '\n'] : List CodePoint) ∈ lineEnds := by decide
    exact .line (unbroken_reverse.mpr h) hpair nofun hrest
  | case4 started c rest hreturn hend ih =>
    have hrest : Breaks rest (linesFrom none rest) := ih nofun unbroken_nil
    have hsingle : [c] ∈ lineEnds := mem_lineEnds.mpr (.inr ⟨c, hend, rfl⟩)
    -- a carriage return before a line feed was the case above
    refine .line (unbroken_reverse.mpr h) hsingle ?_ hrest
    intro hc hhead
    obtain ⟨rest', rfl⟩ := List.head?_eq_some_iff.mp hhead
    exact hreturn rest' (List.cons.inj hc).1 rfl
  | case5 started c rest hreturn hend ih =>
    have hbegun : Unbroken (c :: started.getD []) :=
      unbroken_cons.mpr ⟨Bool.eq_false_iff.mpr hend, h⟩
    have hrest := ih (by simp) hbegun
    simpa using hrest

/-- Lines are cut off as the rule says. -/
theorem linesFrom_eq_iff {ls : List (List CodePoint)} : linesFrom none cs = ls ↔ Breaks cs ls := by
  constructor
  · rintro rfl
    exact breaks_linesFrom none cs nofun unbroken_nil
  · intro h
    induction h with
    | nothing => rfl
    | @last line hne h =>
      cases line with
      | nil => exact absurd rfl hne
      | cons c cs =>
        rw [unbroken_cons] at h
        rw [linesFrom_of_isLineEnd_eq_false h.1, linesFrom_some h.2]
        rfl
    | line h hending hpair hrest ih =>
      rw [linesFrom_append h hending hpair, ih]
      rfl

theorem Breaks.unbroken {ls : List (List CodePoint)} (h : Breaks cs ls) :
    ∀ line ∈ ls, Unbroken line := by
  induction h with
  | nothing => nofun
  | last hne h =>
    intro line hline
    obtain rfl := List.mem_singleton.mp hline
    exact h
  | line h hending hpair hrest ih => exact List.forall_mem_cons.mpr ⟨h, ih⟩

/-! ### Lines of texts -/

/-- **The lines of a text** are the ones that the rule gives it. -/
theorem lines_eq_iff {text : Text} {ls : List Text} :
    lines text = ls ↔ Breaks text.toList (ls.map toList) := by
  rw [← linesFrom_eq_iff, lines]
  constructor
  · rintro rfl
    simp [List.map_map, Function.comp_def]
  · intro h
    rw [h, List.map_map]
    simp [Function.comp_def]

theorem lines_append {line : Text} (h : Unbroken line.toList) (rest : Text) :
    lines (line ++ "\n" ++ rest) = line :: lines rest := by
  have htext : (line ++ "\n" ++ rest).toList = line.toList ++ .char '\n' :: rest.toList := by
    simp
  have hcut : linesFrom none (line.toList ++ ([.char '\n'] ++ rest.toList))
      = line.toList :: linesFrom none rest.toList := by
    refine linesFrom_append h (by decide) ?_
    intro hreturn
    cases hreturn
  rw [lines, htext, ← List.singleton_append, hcut]
  simp [lines]

theorem lines_of_unbroken {line : Text} (hne : line ≠ "") (h : Unbroken line.toList) :
    lines line = [line] := by
  cases htext : line.toList with
  | nil => exact absurd (ext htext) hne
  | cons c cs =>
    rw [htext, unbroken_cons] at h
    rw [lines, htext, linesFrom_of_isLineEnd_eq_false h.1, linesFrom_some h.2]
    simp [← htext]

theorem unbroken_of_mem_lines {line text : Text} (h : line ∈ lines text) :
    Unbroken line.toList := by
  have hbreaks : Breaks text.toList ((lines text).map toList) := lines_eq_iff.mp rfl
  exact hbreaks.unbroken line.toList (List.mem_map_of_mem h)

theorem joinLines_singleton (line : Text) : joinLines [line] = line :=
  intercalate_singleton _ line

theorem joinLines_cons_cons (line next : Text) (ls : List Text) :
    joinLines (line :: next :: ls) = line ++ "\n" ++ joinLines (next :: ls) :=
  intercalate_cons_cons _ line next ls

theorem lines_joinLines {ls : List Text} (hne : ∀ line ∈ ls, line ≠ "")
    (h : ∀ line ∈ ls, Unbroken line.toList) : lines (joinLines ls) = ls := by
  induction ls with
  | nil => rfl
  | cons line ls ih =>
    rw [List.forall_mem_cons] at hne h
    cases ls with
    | nil => rw [joinLines_singleton, lines_of_unbroken hne.1 h.1]
    | cons next ls => rw [joinLines_cons_cons, lines_append h.1, ih hne.2 h.2]

/-- An empty last line is lost when lines are joined, and no other line is. -/
theorem mem_of_mem_lines_joinLines {ls : List Text} (h : ∀ line ∈ ls, Unbroken line.toList)
    {line : Text} (hline : line ∈ lines (joinLines ls)) : line ∈ ls := by
  induction ls with
  | nil => cases hline
  | cons first ls ih =>
    rw [List.forall_mem_cons] at h
    cases ls with
    | nil =>
      rw [joinLines_singleton] at hline
      -- an empty text has no line at all
      by_cases hempty : first = ""
      · subst hempty
        cases hline
      · rwa [lines_of_unbroken hempty h.1] at hline
    | cons next ls =>
      rw [joinLines_cons_cons, lines_append h.1] at hline
      rcases List.mem_cons.mp hline with rfl | hrest
      · exact List.mem_cons_self
      · exact List.mem_cons_of_mem first (ih h.2 hrest)

/-- **Joined lines are the lines of the text** exactly if none of them can be broken. -/
theorem lines_joinLines_iff {ls : List Text} (hne : ∀ line ∈ ls, line ≠ "") :
    lines (joinLines ls) = ls ↔ ∀ line ∈ ls, Unbroken line.toList := by
  constructor
  · intro hlines line hline
    rw [← hlines] at hline
    exact unbroken_of_mem_lines hline
  · exact lines_joinLines hne

/-! ### Printable characters -/

theorem isLineEnd_of_printable {c : Char} (hlow : 0x20 ≤ c.toNat) (hhigh : c.toNat < 0x7F) :
    isLineEnd c = false := by
  rw [Bool.eq_false_iff]
  intro hend
  have hcode : c.toNat ∈ [10, 13, 11, 12, 28, 29, 30, 0x85, 0x2028, 0x2029] := by
    simp only [isLineEnd, Bool.or_eq_true, beq_iff_eq, CodePoint.char.injEq] at hend
    rcases hend with ((((((((rfl | rfl) | rfl) | rfl) | rfl) | rfl) | rfl) | rfl) | rfl) | rfl
    all_goals decide
  simp only [List.mem_cons, List.not_mem_nil, or_false] at hcode
  omega

/-- No character of a text ends a line. -/
def UnbrokenChars (cs : List Char) : Prop := Unbroken (cs.map .char)

@[simp] theorem unbrokenChars_nil : UnbrokenChars [] := unbroken_nil

@[simp] theorem unbrokenChars_cons {c : Char} {cs : List Char} :
    UnbrokenChars (c :: cs) ↔ isLineEnd c = false ∧ UnbrokenChars cs :=
  unbroken_cons

@[simp] theorem unbrokenChars_append {cs ds : List Char} :
    UnbrokenChars (cs ++ ds) ↔ UnbrokenChars cs ∧ UnbrokenChars ds := by
  rw [UnbrokenChars, List.map_append, unbroken_append]
  rfl

theorem isLineEnd_digitChar : ∀ d < 16, isLineEnd (Nat.digitChar d) = false := by
  decide

theorem unbroken_toDigits (n : Nat) : UnbrokenChars (Nat.toDigits 16 n) := by
  induction n using Nat.strongRecOn with
  | ind n ih =>
    by_cases hn : n < 16
    · rw [Nat.toDigits_of_lt_base hn]
      exact unbrokenChars_cons.mpr ⟨isLineEnd_digitChar n hn, unbrokenChars_nil⟩
    · rw [Nat.toDigits_of_base_le (by decide) (by omega), unbrokenChars_append]
      refine ⟨ih (n / 16) (by omega), ?_⟩
      exact unbrokenChars_cons.mpr
        ⟨isLineEnd_digitChar _ (Nat.mod_lt n (by decide)), unbrokenChars_nil⟩

theorem unbroken_replicate {c : Char} (h : isLineEnd c = false) (n : Nat) :
    UnbrokenChars (List.replicate n c) := by
  intro d hd
  rw [List.map_replicate] at hd
  rw [List.eq_of_mem_replicate hd]
  exact h

theorem unbroken_hexEscape {letter : Char} (h : isLineEnd letter = false) (width n : Nat) :
    UnbrokenChars (hexEscape letter width n) := by
  rw [hexEscape, hexDigits, unbrokenChars_cons, unbrokenChars_cons, unbrokenChars_append]
  exact ⟨rfl, h, unbroken_replicate rfl _, unbroken_toDigits n⟩

end WorkflowPolicy.Text
