/-
  WorkflowPolicy/Proofs/Yaml/RoundTrip.lean
  =========================================
  **Mappings that are written are read back.**  The text of a mapping with simple keys is
  read as that mapping (`read_write`).  The text holds nothing but printable characters and
  line feeds, so none of it is refused or changed before it is scanned.
-/
import WorkflowPolicy.Proofs.Yaml.Grammar
import WorkflowPolicy.Proofs.Yaml.Meaning
import WorkflowPolicy.Proofs.Yaml.Scanner.Tree

namespace WorkflowPolicy.Yaml

variable {x : Char} {cs ds : List Char} {d : Data} {n : Nat}

/-! ### Characters of scalars -/

/-- All characters are line feeds or printable in ASCII. -/
def Shown (cs : List Char) : Prop := ∀ x ∈ cs, x = '\n' ∨ isPrintableAscii x = true

@[simp] theorem shown_nil : Shown [] := List.forall_mem_nil _

@[simp] theorem shown_cons : Shown (x :: cs) ↔ (x = '\n' ∨ isPrintableAscii x = true) ∧ Shown cs :=
  List.forall_mem_cons

@[simp] theorem shown_append : Shown (cs ++ ds) ↔ Shown cs ∧ Shown ds := List.forall_mem_append

theorem Printable.shown (h : Printable cs) : Shown cs := fun x hx => .inr (h x hx)

@[simp] theorem shown_newLine (c : Nat) : Shown (newLine c) :=
  shown_cons.mpr ⟨.inl rfl, (Cursor.printable_replicate c).shown⟩

theorem shown_folded (h : Shown cs) (mark previous : Option Char) (p : Place) :
    Shown (folded mark previous p cs) := by
  induction cs generalizing previous p with
  | nil => exact shown_nil
  | cons c cs ih =>
    obtain ⟨hc, hcs⟩ := shown_cons.mp h
    rw [folded]
    split_ifs <;> simp [hc, ih hcs]

theorem shown_escape (c : CodePoint) : Shown (escape c) := by
  obtain ⟨letter, tail, hescape, hprintable, -⟩ := QuotedScalar.escapeAt_tail c
  rw [hescape]
  exact shown_cons.mpr ⟨.inr (by decide), hprintable.shown⟩

theorem shown_keptBreak (p : Place) (next : Option CodePoint) : Shown (keptBreak p next).1 := by
  have hslash : isPrintableAscii '\\' = true := by decide
  rw [keptBreak]
  split <;> simp [hslash]

theorem shown_doubled (ps : List CodePoint) (first escaped : Bool) (p : Place) :
    Shown (doubled first escaped p ps) := by
  induction ps generalizing first escaped p with
  | nil => exact shown_nil
  | cons c ps ih =>
    cases hc : unescaped? c with
    | none =>
      rw [QuotedScalar.doubled_escape hc]
      split <;> simp [shown_escape, shown_keptBreak, ih]
    | some x =>
      obtain ⟨-, -, -, hprintable⟩ := QuotedScalar.unescaped?_eq_some.mp hc
      rw [QuotedScalar.doubled_char hc]
      split <;> simp [hprintable, shown_keptBreak, ih]

theorem Written.shown {p : Place} {t : Token} (h : Written p cs t) : Shown cs := by
  have hsingle : isPrintableAscii '\'' = true := by decide
  have hdouble : isPrintableAscii '"' = true := by decide
  cases h with
  | plain h => exact shown_folded h.printable.shown _ _ _
  | @single cs h =>
    have hcs : Shown cs := by
      rw [canBeSingleQuoted, Bool.and_eq_true, List.all_eq_true] at h
      exact fun x hx => by simpa using h.1 x hx
    simp [singleQuoted, hsingle, shown_folded hcs]
  | double s => simp [doubleQuoted, hdouble, shown_doubled]

/-! ### Characters of data -/

theorem shown_stack {blocks : List (List Char)} (h : ∀ b ∈ blocks, Shown b) (c : Nat) :
    Shown (stack c blocks) := by
  induction blocks with
  | nil => exact shown_nil
  | cons first blocks ih =>
    obtain ⟨hfirst, hblocks⟩ := List.forall_mem_cons.mp h
    cases blocks with
    | nil => simpa [stack, List.intercalate] using hfirst
    | cons second blocks =>
      rw [Scanner.stack_cons_cons]
      simp [hfirst, ih hblocks]

theorem shown_itemBlocks {xs : List Data} (h : ∀ x ∈ xs, ∀ c, Shown (block c c (.ofData x)))
    (c : Nat) : ∀ b ∈ itemBlocks c (Tree.ofItems xs), Shown b := by
  have hdash : isPrintableAscii '-' = true ∧ isPrintableAscii ' ' = true := by decide
  induction xs with
  | nil => simp [Tree.ofItems, itemBlocks]
  | cons x xs ih =>
    obtain ⟨hx, hxs⟩ := List.forall_mem_cons.mp h
    rw [Scanner.itemBlocks_cons]
    exact List.forall_mem_cons.mpr ⟨by simp [hdash, hx], ih hxs⟩

theorem shown_entryBlocks {es : Fields Data} (hkeys : ∀ e ∈ es, IsWordKey e.1)
    (h : ∀ e ∈ es, ∀ c p, Shown (valueChars c p (.ofData e.2))) (c : Nat) :
    ∀ b ∈ entryBlocks c (Tree.ofEntries es.toMapping), Shown b := by
  have hcolon : isPrintableAscii ':' = true := by decide
  induction es with
  | nil => simp [Fields.toMapping, Tree.ofEntries, entryBlocks]
  | cons e es ih =>
    obtain ⟨k, v⟩ := e
    obtain ⟨⟨cs, rfl, hkey⟩, hrest⟩ := List.forall_mem_cons.mp hkeys
    obtain ⟨he, hes⟩ := List.forall_mem_cons.mp h
    have hword := (Scanner.isWord_plain hkey).printable.shown
    rw [Fields.toMapping, List.map_cons, Scanner.entryBlocks_cons hkey]
    exact List.forall_mem_cons.mpr ⟨by simp [hword, hcolon, he], ih hrest hes⟩

theorem shown_pair {first last : Char} {start finish : Token}
    (h : Scanner.IsPair first last start finish) :
    Shown [first, last] ∧ Shown [' ', first, last] := by
  have hblank : isPrintableAscii ' ' = true := by decide
  simp [hblank, h.printable]

/-- The text of data, wherever it stands. -/
theorem shown_storable (h : Storable n d) :
    (∀ c, Shown (block c c (.ofData d))) ∧ ∀ c p, Shown (valueChars c p (.ofData d)) := by
  have hblank : isPrintableAscii ' ' = true := by decide
  induction h with
  | simple h =>
    refine ⟨fun c => ?_, fun c p => ?_⟩
    · rw [Scanner.block_simple h]
      exact (written_simple h _).shown
    · rw [Scanner.valueChars_simple h]
      exact shown_cons.mpr ⟨.inr hblank, (written_simple h _).shown⟩
  | @list n xs h ih =>
    have hitems := fun c => shown_stack (shown_itemBlocks (fun x hx => (ih x hx).1) c) c
    cases xs with
    | nil =>
      have hpair := shown_pair Scanner.isPair_list
      exact ⟨fun _ => hpair.1, fun _ _ => hpair.2⟩
    | cons x xs =>
      refine ⟨fun c => ?_, fun c p => ?_⟩
      · rw [Scanner.block_list]
        exact hitems c
      · rw [Scanner.valueChars_list]
        exact shown_append.mpr ⟨shown_newLine c, hitems c⟩
  | @map n es hkeys hdistinct h ih =>
    have hentries := fun c => shown_stack (shown_entryBlocks hkeys (fun e he => (ih e he).2) c) c
    cases es with
    | nil =>
      have hpair := shown_pair Scanner.isPair_map
      exact ⟨fun _ => hpair.1, fun _ _ => hpair.2⟩
    | cons e es =>
      have hblock : ∀ c, Shown (block c c (.ofData (.ofFields (e :: es)))) := fun c => by
        rw [Data.ofFields, List.map_cons, Scanner.block_map]
        exact hentries c
      refine ⟨hblock, fun c p => ?_⟩
      rw [Data.ofFields, List.map_cons, Scanner.valueChars_map]
      exact shown_append.mpr ⟨shown_newLine _, hblock _⟩

/-! ### Reading -/

theorem isAllowed_of_shown (h : Shown cs) : cs.all isAllowed = true := by
  rw [List.all_eq_true]
  intro x hx
  rcases h x hx with rfl | hprintable
  · decide
  · rw [isPrintableAscii] at hprintable
    simp only [isAllowed, hprintable, Bool.or_true, Bool.true_or]

/-- There are no line ends but line feeds. -/
theorem unifyBreaks_of_shown (h : Shown cs) : unifyBreaks cs = cs := by
  induction cs with
  | nil => rfl
  | cons x cs ih =>
    obtain ⟨hx, hcs⟩ := shown_cons.mp h
    have hreturn : x ≠ '\r' := by
      rintro rfl
      revert hx
      decide
    have hnext : x ≠ '\x85' := by
      rintro rfl
      revert hx
      decide
    rw [unifyBreaks, ih hcs]
    · simp [hreturn, hnext]
    · simp [hreturn]

/-- A mapping with simple keys is read from what is written of it, if it does not nest so
    deep that there is no room for it on a line or in the reader. -/
theorem read_write {es : Fields Data} (hne : es ≠ []) (hkeys : ∀ e ∈ es, IsWordKey e.1)
    (hdistinct : Assoc.Distinct id es) (hvalues : ∀ e ∈ es, Storable n e.2)
    (hn : 2 + 2 * n < lineWidth) {deepest : Nat} (hdeep : n + 1 < deepest) :
    read deepest (write es.toMapping) = .ok (.ofFields es) := by
  obtain ⟨⟨s, v⟩, es, rfl⟩ := List.exists_cons_of_ne_nil hne
  have hstorable : Storable (n + 1) (.ofFields ((s, v) :: es)) := .map hkeys hdistinct hvalues
  obtain ⟨nodes, val, hnodes, hroot, hval, hmeans⟩ := onlyNodes_dataTokens hstorable hdeep
  obtain ⟨doc, hdocument, hdata⟩ := document_data hmeans hroot
  have hshown : Shown (write (Fields.toMapping ((s, v) :: es))).toList := by
    rw [write, writeTree, String.toList_ofList]
    exact shown_append.mpr ⟨(shown_storable hstorable).1 0, shown_newLine 0⟩
  rw [read, document, Text.chars?_ofString, Option.filter_some, if_pos (isAllowed_of_shown hshown)]
  simp only [Option.elim_some, bind, Except.bind, unifyBreaks_of_shown hshown,
    Scanner.ofChars_write hkeys hvalues hn, hnodes, hdocument]
  rw [hdata, hval]
  rfl

end WorkflowPolicy.Yaml
