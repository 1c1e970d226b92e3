/-
  WorkflowPolicy/Proofs/Json/RoundTrip.lean
  =========================================
  **JSON text reads back.**  Nulls, booleans, integers, texts, lists and mappings with
  distinct text keys (`Held`) are read from their text as they were written, all but the
  pairs in their texts (`read_compact`).  So the very value comes back exactly if no text
  of it has a pair (`joined_eq_self_iff`).

  The reader gives up after as many steps as the text has characters, and follows as many
  levels, so the induction carries both bounds along, together with what may follow a
  value (`Ends`): a number would swallow digits that come after it, but only a separator,
  a closing bracket or nothing ever does.

  Sorting the keys moves entries and changes nothing else, so text with sorted
  keys reads back up to the order of keys (`read_compactSorted`).
-/
import WorkflowPolicy.Json.Reader
import WorkflowPolicy.Proofs.Json.Quoted
import WorkflowPolicy.Proofs.Json.Writable
import WorkflowPolicy.Proofs.Text.DigitLimit

namespace WorkflowPolicy.Json

open WorkflowPolicy.Text

/-! ### Data that JSON holds -/

/-- A key that is read as it was written. -/
def PlainKey (k : Data) : Prop := ∃ s, k = .text s ∧ ¬ HasPair s.toList

inductive Held : Data → Prop
  | null : Held .null
  | bool (b : Bool) : Held (.bool b)
  | int (n : Int) : Held (.int n)
  | text (s : Text) : Held (.text s)
  | list {xs : List Data} (items : ∀ x ∈ xs, Held x) : Held (.list xs)
  | map {es : List (Data × Data)} (keys : ∀ e ∈ es, PlainKey e.1)
      (values : ∀ e ∈ es, Held e.2) (distinct : Assoc.Distinct Data.keyForm es) :
      Held (.map es)

mutual

/-- A value with one character in the place of every pair. -/
def joined : Data → Data
  | .text s => .text ⟨joinPairs s.toList⟩
  | .list xs => .list (joinedItems xs)
  | .map es => .map (joinedEntries es)
  | d => d

def joinedItems : List Data → List Data
  | [] => []
  | x :: xs => joined x :: joinedItems xs

def joinedEntries : List (Data × Data) → List (Data × Data)
  | [] => []
  | (k, v) :: es => (k, joined v) :: joinedEntries es

end

theorem joinedItems_eq (xs : List Data) : joinedItems xs = xs.map joined := by
  induction xs with
  | nil => rfl
  | cons x xs ih => rw [joinedItems, ih, List.map_cons]

theorem joinedEntries_eq (es : List (Data × Data)) :
    joinedEntries es = es.map fun e => (e.1, joined e.2) := by
  induction es with
  | nil => rfl
  | cons e es ih =>
    obtain ⟨k, v⟩ := e
    rw [joinedEntries, ih, List.map_cons]

/-- A text stands in a value, be it as an item or under a key. -/
inductive HasText (s : Text) : Data → Prop
  | here : HasText s (.text s)
  | item {xs : List Data} {x : Data} (hx : x ∈ xs) (h : HasText s x) : HasText s (.list xs)
  | entry {es : List (Data × Data)} {e : Data × Data} (he : e ∈ es) (h : HasText s e.2) :
      HasText s (.map es)

def PairFree (d : Data) : Prop := ∀ s, HasText s d → ¬ HasPair s.toList

theorem pairFree_text {s : Text} : PairFree (.text s) ↔ ¬ HasPair s.toList := by
  constructor
  · exact fun h => h s .here
  · rintro h t ⟨⟩
    exact h

theorem pairFree_list {xs : List Data} : PairFree (.list xs) ↔ ∀ x ∈ xs, PairFree x := by
  constructor
  · exact fun h x hx s hs => h s (.item hx hs)
  · rintro h s (_ | ⟨hx, hs⟩)
    exact h _ hx s hs

theorem pairFree_map {es : List (Data × Data)} :
    PairFree (.map es) ↔ ∀ e ∈ es, PairFree e.2 := by
  constructor
  · exact fun h e he s hs => h s (.entry he hs)
  · rintro h s (_ | _ | ⟨he, hs⟩)
    exact h _ he s hs

theorem map_eq_self_iff {α : Type} {f : α → α} {xs : List α} :
    xs.map f = xs ↔ ∀ x ∈ xs, f x = x := by
  induction xs with
  | nil => simp
  | cons x xs ih => rw [List.map_cons, List.cons.injEq, ih, List.forall_mem_cons]

/-- **A value is read as it was** exactly if no text of it has a pair. -/
theorem joined_eq_self_iff {d : Data} (h : Held d) : joined d = d ↔ PairFree d := by
  induction h with
  | null => exact iff_of_true rfl nofun
  | bool b => exact iff_of_true rfl nofun
  | int n => exact iff_of_true rfl nofun
  | text s =>
    rw [pairFree_text, ← joinPairs_eq_self_iff, joined, Data.text.injEq, ← Text.toList_inj]
  | list items ih =>
    rw [pairFree_list, joined, joinedItems_eq, Data.list.injEq, map_eq_self_iff]
    exact forall₂_congr ih
  | map keys values distinct ih =>
    rw [pairFree_map, joined, joinedEntries_eq, Data.map.injEq, map_eq_self_iff]
    refine forall₂_congr fun e he => ?_
    rw [← ih e he, Prod.ext_iff, eq_self_iff_true, true_and]

/-- What may follow a value: nothing, or a character that ends it. -/
def Ends (rest : List Char) : Prop :=
  ∀ c ∈ rest.head?, c = ',' ∨ c = ']' ∨ c = '\x7d'

theorem ends_nil : Ends [] := by
  intro c hc
  cases hc

theorem ends_comma (rest : List Char) : Ends (',' :: rest) := by
  intro c hc
  exact .inl (Option.mem_some_iff.mp hc).symm

theorem ends_bracket (rest : List Char) : Ends (']' :: rest) := by
  intro c hc
  exact .inr (.inl (Option.mem_some_iff.mp hc).symm)

theorem ends_brace (rest : List Char) : Ends ('\x7d' :: rest) := by
  intro c hc
  exact .inr (.inr (Option.mem_some_iff.mp hc).symm)

/-! ### Numbers -/

theorem takeDigits_append {ds rest : List Char} (hds : ∀ c ∈ ds, isAsciiDigit c = true)
    (hrest : Ends rest) : takeDigits (ds ++ rest) = (ds, rest) := by
  induction ds with
  | nil =>
    cases rest with
    | nil => rfl
    | cons c rest =>
      have hc : isAsciiDigit c = false := by
        rcases hrest c rfl with h | h | h <;> subst h <;> decide
      simp [takeDigits, hc]
  | cons c ds ih =>
    have hc := hds c (by simp)
    have htail := ih fun x hx => hds x (List.mem_cons_of_mem _ hx)
    simp only [takeDigits, Prod.mk.injEq] at htail ⊢
    rw [List.cons_append, List.takeWhile_cons, List.dropWhile_cons, hc, if_pos rfl, if_pos rfl,
      htail.1, htail.2]
    exact ⟨rfl, rfl⟩

theorem fractionAt_of_ends {rest : List Char} (h : Ends rest) : fractionAt rest = ([], rest) := by
  unfold fractionAt
  split
  · rcases h '.' rfl with h | h | h <;> cases h
  · rfl

theorem exponentAt_of_ends {rest : List Char} (h : Ends rest) : exponentAt rest = ([], rest) := by
  cases rest with
  | nil => rfl
  | cons c rest =>
    have hc : (c == 'e' || c == 'E') = false := by
      rcases h c rfl with h | h | h <;> subst h <;> decide
    simp [exponentAt, hc]

theorem wholeAt?_toDigits (n : Nat) {rest : List Char} (h : Ends rest) :
    wholeAt? (Nat.toDigits 10 n ++ rest) = some (Nat.toDigits 10 n, rest) := by
  rcases Nat.eq_zero_or_pos n with hn | hn
  · subst hn
    rfl
  · have htake := takeDigits_append (fun c hc => isAsciiDigit_of_mem_toDigits (n := n) hc) h
    cases hdigits : Nat.toDigits 10 n with
    | nil => exact (Nat.toDigits_ne_nil hdigits).elim
    | cons c cs =>
      have hne : c ≠ '0' := by
        rintro rfl
        exact toDigits_ne_zero_cons hn cs hdigits
      rw [hdigits] at htake
      unfold wholeAt?
      split
      · rename_i heq
        exact (hne (List.cons.inj heq).1).elim
      · rw [htake]

theorem numberAt_ofInt {n : Int} (hn : Decimal.isWritable n = true) {rest : List Char}
    (h : Ends rest) : numberAt ((Decimal.ofInt n).toList ++ rest) = .ok (.int n, rest) := by
  have hread := integerOf?_ofInt n
  have hfew : hasTooManyDigits (Nat.toDigits 10 n.natAbs) = false := by
    rw [hasTooManyDigits_toDigits, hn]
    rfl
  rw [toList_ofInt] at hread ⊢
  by_cases hneg : n < 0
  · simp only [hneg, if_true, List.cons_append, List.nil_append] at hread ⊢
    simp [numberAt, wholeAt?_toDigits n.natAbs h, fractionAt_of_ends h, exponentAt_of_ends h,
      hfew, hread, expect, bind, Except.bind, pure, Except.pure]
  · simp only [hneg, if_false, List.nil_append] at hread ⊢
    unfold numberAt
    split
    rename_i sign body heq
    split at heq
    · -- a minus sign would have to be the first digit
      rename_i tail hcons
      have hminus : isAsciiDigit '-' = true := by
        refine isAsciiDigit_of_mem_toDigits (n := n.natAbs) ?_
        cases hdigits : Nat.toDigits 10 n.natAbs with
        | nil => exact (Nat.toDigits_ne_nil hdigits).elim
        | cons c cs =>
          rw [hdigits, List.cons_append] at hcons
          rw [(List.cons.inj hcons).1]
          simp
      cases hminus
    · cases heq
      simp [wholeAt?_toDigits n.natAbs h, fractionAt_of_ends h, exponentAt_of_ends h, hfew,
        hread, expect, bind, Except.bind, pure, Except.pure]

/-! ### The characters of a value -/

theorem toList_compact_text (s : Text) :
    (compact (.text s)).toList = encodeCodes s.toList := by
  simp [compact, scalar, encode]

theorem toList_compact_list (xs : List Data) : (compact (.list xs)).toList =
    '[' :: ((", ".intercalate (compactItems xs)).toList ++ [']']) := by
  simp [compact]

theorem toList_compact_map (es : List (Data × Data)) : (compact (.map es)).toList =
    '\x7b' :: ((", ".intercalate (compactEntries es)).toList ++ ['\x7d']) := by
  simp [compact]

/-! ### How values open -/

/-- A character that opens a value: no blank, and nothing that closes a collection. -/
def Opens (c : Char) : Prop := isBlank c = false ∧ c ≠ ']' ∧ c ≠ '\x7d'

instance (c : Char) : Decidable (Opens c) :=
  inferInstanceAs (Decidable (isBlank c = false ∧ c ≠ ']' ∧ c ≠ '\x7d'))

theorem skipBlanks_cons {c : Char} (h : isBlank c = false) (cs : List Char) :
    skipBlanks (c :: cs) = c :: cs := by
  rw [skipBlanks, List.dropWhile_cons, h]
  rfl

theorem skipBlanks_of_ends {rest : List Char} (h : Ends rest) : skipBlanks rest = rest := by
  cases rest with
  | nil => rfl
  | cons c rest =>
    refine skipBlanks_cons ?_ rest
    rcases h c rfl with h | h | h <;> subst h <;> decide

theorem opens_of_isAsciiDigit {c : Char} (h : isAsciiDigit c = true) : Opens c := by
  refine ⟨?_, ?_, ?_⟩
  · rw [Bool.eq_false_iff]
    intro hblank
    simp only [isBlank, Bool.or_eq_true, beq_iff_eq] at hblank
    rcases hblank with ((hc | hc) | hc) | hc <;> subst hc <;> cases h
  · rintro rfl
    cases h
  · rintro rfl
    cases h

/-- The text of an integer opens with a digit or with a minus sign and a digit. -/
theorem ofInt_opens (n : Int) : ∃ c cs, (Decimal.ofInt n).toList = c :: cs ∧
    (isAsciiDigit c = true ∨ c = '-' ∧ ∃ d ds, cs = d :: ds ∧ isAsciiDigit d = true) := by
  rw [toList_ofInt]
  cases hdigits : Nat.toDigits 10 n.natAbs with
  | nil => exact (Nat.toDigits_ne_nil hdigits).elim
  | cons d ds =>
    have hd : isAsciiDigit d = true :=
      isAsciiDigit_of_mem_toDigits (n := n.natAbs) (by rw [hdigits]; simp)
    by_cases hneg : n < 0
    · exact ⟨'-', d :: ds, by simp [hneg], .inr ⟨rfl, d, ds, rfl, hd⟩⟩
    · exact ⟨d, ds, by simp [hneg], .inl hd⟩

def OpensValue (text : List Char) : Prop := ∃ c cs, text = c :: cs ∧ Opens c

theorem OpensValue.append {text : List Char} (h : OpensValue text) (rest : List Char) :
    OpensValue (text ++ rest) := by
  obtain ⟨c, cs, rfl, hc⟩ := h
  exact ⟨c, cs ++ rest, rfl, hc⟩

theorem OpensValue.skipBlanks {text : List Char} (h : OpensValue text) :
    skipBlanks text = text := by
  obtain ⟨c, cs, rfl, hc⟩ := h
  exact skipBlanks_cons hc.1 cs

theorem opensValue_compact {d : Data} (h : Held d) : OpensValue (compact d).toList := by
  cases h with
  | null => exact ⟨'n', ['u', 'l', 'l'], by decide +kernel, by decide⟩
  | bool b =>
    cases b with
    | false => exact ⟨'f', ['a', 'l', 's', 'e'], by decide +kernel, by decide⟩
    | true => exact ⟨'t', ['r', 'u', 'e'], by decide +kernel, by decide⟩
  | int n =>
    obtain ⟨c, cs, htext, hc⟩ := ofInt_opens n
    refine ⟨c, cs, htext, ?_⟩
    rcases hc with hc | ⟨rfl, -⟩
    · exact opens_of_isAsciiDigit hc
    · decide
  | text s =>
    refine ⟨'"', s.toList.flatMap encodeCode ++ ['"'], ?_, by decide⟩
    rw [toList_compact_text]
    rfl
  | list items =>
    rename_i xs
    exact ⟨'[', _, toList_compact_list xs, by decide⟩
  | map keys values distinct =>
    rename_i es
    exact ⟨'\x7b', _, toList_compact_map es, by decide⟩

/-! ### Words and texts -/

/-- No word stands where one of the first two characters is a digit. -/
theorem wordAt?_eq_none {cs : List Char} {c : Char} (hc : c ∈ cs.take 2)
    (hdigit : isAsciiDigit c = true) : wordAt? cs = none := by
  -- no word has a digit among its first two characters
  have hwords : (words.all fun w => decide (2 ≤ w.1.toList.length)
      && (w.1.toList.take 2).all fun d => !isAsciiDigit d) = true := by
    decide
  have hletters : ∀ w ∈ words,
      2 ≤ w.1.toList.length ∧ ∀ d ∈ w.1.toList.take 2, isAsciiDigit d = false := by
    simpa using hwords
  rw [wordAt?, List.findSome?_eq_none_iff]
  intro w hw
  obtain ⟨hlength, hnone⟩ := hletters w hw
  rw [afterWord?]
  split
  · rename_i hprefix
    obtain ⟨rest, hrest⟩ := List.isPrefixOf_iff_prefix.mp hprefix
    rw [← hrest, List.take_append_of_le_length hlength] at hc
    have hfalse := hnone c hc
    rw [hdigit] at hfalse
    cases hfalse
  · rfl

theorem wordAt?_ofInt (n : Int) (rest : List Char) :
    wordAt? ((Decimal.ofInt n).toList ++ rest) = none := by
  obtain ⟨c, cs, htext, hc⟩ := ofInt_opens n
  rw [htext]
  rcases hc with hc | ⟨rfl, d, ds, rfl, hd⟩
  · exact wordAt?_eq_none (by simp) hc
  · exact wordAt?_eq_none (by simp) hd

/-! ### Texts one after the other -/

theorem toList_intercalate_cons_cons (t u : String) (ts : List String) :
    (", ".intercalate (t :: u :: ts)).toList
      = t.toList ++ ',' :: ' ' :: (", ".intercalate (u :: ts)).toList := by
  simp

theorem toList_intercalate_cons (t : String) (ts : List String) :
    ∃ more, (", ".intercalate (t :: ts)).toList = t.toList ++ more := by
  cases ts with
  | nil => exact ⟨[], by simp⟩
  | cons u ts => exact ⟨_, toList_intercalate_cons_cons t u ts⟩

theorem length_le_intercalate {t : String} {ts : List String} (h : t ∈ ts) :
    t.toList.length ≤ (", ".intercalate ts).toList.length := by
  induction ts with
  | nil => cases h
  | cons u ts ih =>
    cases ts with
    | nil =>
      exact Nat.le_of_eq (by rw [String.intercalate_singleton, List.mem_singleton.mp h])
    | cons v ts =>
      rw [toList_intercalate_cons_cons, List.length_append, List.length_cons, List.length_cons]
      rcases List.mem_cons.mp h with rfl | h
      · omega
      · have hrest := ih h
        omega

/-- The commas alone make the text about as long as the list. -/
theorem length_le_intercalate_add_one (ts : List String) :
    ts.length ≤ (", ".intercalate ts).toList.length + 1 := by
  induction ts with
  | nil => exact Nat.zero_le _
  | cons t ts ih =>
    cases ts with
    | nil => exact Nat.le_add_left _ _
    | cons u ts =>
      rw [toList_intercalate_cons_cons]
      simp only [List.length_append, List.length_cons] at ih ⊢
      omega

theorem skipBlanks_space (cs : List Char) : skipBlanks (' ' :: cs) = skipBlanks cs := rfl

theorem opensValue_intercalate {t : String} (h : OpensValue t.toList) (ts : List String) :
    OpensValue (", ".intercalate (t :: ts)).toList := by
  obtain ⟨more, htext⟩ := toList_intercalate_cons t ts
  rw [htext]
  exact h.append more

/-! ### Reading back -/

/-- A reader takes a text for a value, whatever comes after it. -/
def Reads {α : Type} (item : List Char → Except ReadFault (α × List Char)) (text : String)
    (x : α) : Prop :=
  ∀ rest, Ends rest → item (text.toList ++ rest) = .ok (x, rest)

section

variable {α β : Type} {close : Char} {item : List Char → Except ReadFault (α × List Char)}
  {text : β → String} {value : β → α}

/-- Items are read from their texts with commas between. -/
theorem itemsAt_intercalate (hclose : close = ']' ∨ close = '\x7d') (y : β) (ys : List β)
    (hopens : ∀ z ∈ y :: ys, OpensValue (text z).toList)
    (hreads : ∀ z ∈ y :: ys, Reads item (text z) (value z)) {steps : Nat} (rest : List Char)
    (hsteps : (y :: ys).length ≤ steps) :
    itemsAt close item steps ((", ".intercalate ((y :: ys).map text)).toList ++ close :: rest)
      = .ok ((y :: ys).map value, rest) := by
  have hends : Ends (close :: rest) := by
    rcases hclose with rfl | rfl
    · exact ends_bracket rest
    · exact ends_brace rest
  have hcomma : ',' ≠ close := by
    rcases hclose with rfl | rfl <;> decide
  induction ys generalizing y steps with
  | nil =>
    obtain ⟨steps, rfl⟩ := Nat.exists_eq_add_of_le' hsteps
    rw [List.map_singleton, String.intercalate_singleton, List.length_singleton, itemsAt,
      hreads y List.mem_cons_self _ hends]
    simp only [bind, Except.bind, skipBlanks_of_ends hends, if_true]
    rfl
  | cons z zs ih =>
    obtain ⟨hy, hzs⟩ := List.forall_mem_cons.mp hreads
    obtain ⟨steps, rfl⟩ := Nat.exists_eq_add_of_le' (Nat.le_trans (by simp) hsteps : 1 ≤ steps)
    have hopens' := (List.forall_mem_cons.mp hopens).2
    have htail := ih z hopens' hzs (Nat.le_of_succ_le_succ hsteps)
    have hblank : skipBlanks (' ' :: ((", ".intercalate ((z :: zs).map text)).toList
        ++ close :: rest)) = (", ".intercalate ((z :: zs).map text)).toList ++ close :: rest := by
      rw [skipBlanks_space, List.map_cons]
      exact ((opensValue_intercalate (hopens' z List.mem_cons_self) _).append _).skipBlanks
    rw [List.map_cons, List.map_cons, toList_intercalate_cons_cons, ← List.map_cons,
      List.append_assoc, List.cons_append, List.cons_append, itemsAt, hy _ (ends_comma _)]
    simp only [bind, Except.bind, skipBlanks_of_ends (ends_comma _), if_neg hcomma, if_true,
      hblank, htail]
    rfl

theorem contentAt_intercalate (hclose : close = ']' ∨ close = '\x7d') (ys : List β)
    (hopens : ∀ z ∈ ys, OpensValue (text z).toList)
    (hreads : ∀ z ∈ ys, Reads item (text z) (value z)) {steps : Nat} (rest : List Char)
    (hsteps : ys.length ≤ steps) :
    contentAt close item steps ((", ".intercalate (ys.map text)).toList ++ close :: rest)
      = .ok (ys.map value, rest) := by
  cases ys with
  | nil =>
    have hblank : isBlank close = false := by
      rcases hclose with rfl | rfl <;> decide
    have htext : (", ".intercalate (([] : List β).map text)).toList = [] := rfl
    rw [htext, List.nil_append, contentAt, skipBlanks_cons hblank]
    exact if_pos rfl
  | cons y ys =>
    have hitems := itemsAt_intercalate hclose y ys hopens hreads rest hsteps
    have hopensAll := (opensValue_intercalate (hopens y List.mem_cons_self)
      (ys.map text)).append (close :: rest)
    rw [List.map_cons] at hitems ⊢
    rw [contentAt, hopensAll.skipBlanks]
    obtain ⟨c, cs, htext, hc⟩ := hopensAll
    -- the text of an item does not start with a closing character
    have hne : c ≠ close := by
      rcases hclose with rfl | rfl
      · exact hc.2.1
      · exact hc.2.2
    rw [htext] at hitems ⊢
    simp only [if_neg hne, hitems]

end

/-- The value is read from its text, all but its pairs, within as many steps and levels as
    the text is long. -/
def ReadsBack (d : Data) : Prop :=
  ∀ {steps room : Nat}, (compact d).toList.length ≤ steps → (compact d).toList.length ≤ room →
    Reads (valueAt steps room) (compact d) (joined d)

theorem readsBack_null : ReadsBack .null := by
  intro steps room hsteps _ rest _
  have htext : (compact .null).toList = ['n', 'u', 'l', 'l'] := by decide +kernel
  rw [htext] at hsteps ⊢
  cases steps with
  | zero => cases hsteps
  | succ steps => cases room <;> rfl

theorem readsBack_bool (b : Bool) : ReadsBack (.bool b) := by
  intro steps room hsteps _ rest _
  have htext : (compact (.bool b)).toList =
      if b then ['t', 'r', 'u', 'e'] else ['f', 'a', 'l', 's', 'e'] := by
    cases b <;> decide +kernel
  rw [htext] at hsteps ⊢
  cases steps with
  | zero => cases b <;> cases hsteps
  | succ steps => cases b <;> cases room <;> rfl

/-- What opens no text, list or mapping is a word or a number. -/
theorem valueAt_of_opens {c : Char} (htext : c ≠ '"') (hlist : c ≠ '[') (hmap : c ≠ '\x7b')
    (steps room : Nat) (cs : List Char) : valueAt (steps + 1) room (c :: cs)
      = match wordAt? (c :: cs) with
        | some r => pure r
        | none => numberAt (c :: cs) := by
  refine valueAt.eq_7 room (c :: cs) steps ?_ ?_ ?_ ?_ ?_
  · simp [htext]
  · simp [hlist]
  · simp [hmap]
  · simp [hlist]
  · simp [hmap]

theorem readsBack_int {n : Int} (hn : Decimal.isWritable n = true) : ReadsBack (.int n) := by
  intro steps room hsteps _ rest hrest
  obtain ⟨c, cs, htext, hc⟩ := ofInt_opens n
  have hword := wordAt?_ofInt n rest
  have hnumber := numberAt_ofInt hn hrest
  have htextOf : (compact (.int n)).toList = (Decimal.ofInt n).toList := rfl
  rw [htextOf] at hsteps ⊢
  rw [htext, List.cons_append] at hword hnumber ⊢
  rw [htext] at hsteps
  cases steps with
  | zero => cases hsteps
  | succ steps =>
    have hne : ∀ d : Char, isAsciiDigit d = false → d ≠ '-' → c ≠ d := by
      rintro d hd hminus rfl
      rcases hc with hc | ⟨hc, -⟩
      · rw [hd] at hc
        cases hc
      · exact hminus hc
    rw [valueAt_of_opens (hne '"' (by decide) (by decide)) (hne '[' (by decide) (by decide))
      (hne '\x7b' (by decide) (by decide)), hword, hnumber]
    rfl

theorem readsBack_text (s : Text) : ReadsBack (.text s) := by
  intro steps room hsteps _ rest _
  rw [toList_compact_text] at hsteps ⊢
  cases steps with
  | zero => cases hsteps
  | succ steps =>
    have hread := decode?_encodeCodes s.toList rest
    rw [encodeCodes, List.cons_append] at hread ⊢
    rw [valueAt.eq_2, hread]
    rfl

/-! ### Collections -/

theorem compactItems_eq (xs : List Data) : compactItems xs = xs.map compact := by
  induction xs with
  | nil => rfl
  | cons x xs ih => rw [compactItems, ih, List.map_cons]

def entryText (e : Data × Data) : String := encode (keyText e.1) ++ ": " ++ compact e.2

theorem compactEntries_eq (es : List (Data × Data)) : compactEntries es = es.map entryText := by
  induction es with
  | nil => rfl
  | cons e es ih =>
    obtain ⟨k, v⟩ := e
    rw [compactEntries, ih, List.map_cons]
    rfl

theorem readsBack_list {xs : List Data} (hheld : ∀ x ∈ xs, Held x)
    (hback : ∀ x ∈ xs, ReadsBack x) : ReadsBack (.list xs) := by
  intro steps room hsteps hroom rest _
  rw [toList_compact_list, compactItems_eq, List.length_cons, List.length_append,
    List.length_singleton] at hsteps hroom
  -- the brackets pay for a step and a level
  obtain ⟨steps, rfl⟩ := Nat.exists_eq_succ_of_ne_zero (n := steps) (by omega)
  obtain ⟨room, rfl⟩ := Nat.exists_eq_succ_of_ne_zero (n := room) (by omega)
  have hcount := length_le_intercalate_add_one (xs.map compact)
  rw [List.length_map] at hcount
  have hcontent : contentAt ']' (valueAt steps room) steps
      ((", ".intercalate (xs.map compact)).toList ++ ']' :: rest) = .ok (xs.map joined, rest) := by
    refine contentAt_intercalate (.inl rfl) xs (fun x hx => opensValue_compact (hheld x hx)) ?_
      rest (by omega)
    intro x hx
    have hlength := length_le_intercalate (List.mem_map_of_mem (f := compact) hx)
    exact hback x hx (by omega) (by omega)
  rw [toList_compact_list, compactItems_eq, List.cons_append, List.append_assoc,
    List.singleton_append, valueAt.eq_3, hcontent, joined, joinedItems_eq]
  rfl

theorem toList_entryText (s : Text) (v : Data) : (entryText (.text s, v)).toList =
    encodeCodes s.toList ++ ':' :: ' ' :: (compact v).toList := by
  simp [entryText, keyText, encode]

theorem opensValue_entryText {e : Data × Data} (h : PlainKey e.1) :
    OpensValue (entryText e).toList := by
  obtain ⟨k, v⟩ := e
  obtain ⟨s, rfl, -⟩ := h
  rw [toList_entryText]
  refine OpensValue.append ?_ _
  exact ⟨'"', s.toList.flatMap encodeCode ++ ['"'], rfl, by decide⟩

/-- A key without pairs is read as it was, and the value behind it by its own reader. -/
theorem reads_entryText {e : Data × Data} (hkey : PlainKey e.1) (hheld : Held e.2)
    {value : List Char → Except ReadFault (Data × List Char)}
    (hvalue : Reads value (compact e.2) (joined e.2)) :
    Reads (entryAt value) (entryText e) (e.1, joined e.2) := by
  intro rest hrest
  obtain ⟨k, v⟩ := e
  obtain ⟨s, rfl, hs⟩ := hkey
  have hdecode := decode?_encodeCodes s.toList (':' :: ' ' :: ((compact v).toList ++ rest))
  rw [joinPairs_eq_self_iff.mpr hs] at hdecode
  have hblank : skipBlanks (' ' :: ((compact v).toList ++ rest)) = (compact v).toList ++ rest := by
    rw [skipBlanks_space]
    exact ((opensValue_compact hheld).append rest).skipBlanks
  rw [toList_entryText, List.append_assoc, List.cons_append, List.cons_append, entryAt, hdecode]
  simp only [expect, bind, Except.bind, skipBlanks_cons (show isBlank ':' = false by decide),
    hblank, hvalue rest hrest]
  rfl

theorem readsBack_map {es : List (Data × Data)} (hkeys : ∀ e ∈ es, PlainKey e.1)
    (hheld : ∀ e ∈ es, Held e.2) (hback : ∀ e ∈ es, ReadsBack e.2)
    (hdistinct : Assoc.Distinct Data.keyForm es) : ReadsBack (.map es) := by
  intro steps room hsteps hroom rest _
  rw [toList_compact_map, compactEntries_eq, List.length_cons, List.length_append,
    List.length_singleton] at hsteps hroom
  -- the braces pay for a step and a level
  obtain ⟨steps, rfl⟩ := Nat.exists_eq_succ_of_ne_zero (n := steps) (by omega)
  obtain ⟨room, rfl⟩ := Nat.exists_eq_succ_of_ne_zero (n := room) (by omega)
  have hcount := length_le_intercalate_add_one (es.map entryText)
  rw [List.length_map] at hcount
  have hcontent : contentAt '\x7d' (entryAt (valueAt steps room)) steps
      ((", ".intercalate (es.map entryText)).toList ++ '\x7d' :: rest)
        = .ok (es.map fun e => (e.1, joined e.2), rest) := by
    refine contentAt_intercalate (.inr rfl) es (fun e he => opensValue_entryText (hkeys e he)) ?_
      rest (by omega)
    rintro ⟨k, v⟩ he
    obtain ⟨s, rfl, -⟩ := hkeys _ he
    have hlength := length_le_intercalate (List.mem_map_of_mem (f := entryText) he)
    rw [toList_entryText, List.length_append, List.length_cons, List.length_cons] at hlength
    have hv : ReadsBack v := hback _ he
    exact reads_entryText (hkeys _ he) (hheld _ he) (hv (by omega) (by omega))
  have hjoined : Assoc.Distinct Data.keyForm (es.map fun e => (e.1, joined e.2)) := by
    rw [Assoc.Distinct, List.map_map]
    exact hdistinct
  have hmapping : Mapping.ofList (es.map fun e => (e.1, joined e.2))
      = es.map fun e => (e.1, joined e.2) :=
    Assoc.ofList_of_distinct Data.keyForm hjoined
  rw [toList_compact_map, compactEntries_eq, List.cons_append, List.append_assoc,
    List.singleton_append, valueAt.eq_4, hcontent]
  simp only [bind, Except.bind, hmapping, joined, joinedEntries_eq]
  rfl

/-! ### Whole texts -/

theorem Held.readsBack {d : Data} (h : Held d) (hw : Writable d) : ReadsBack d := by
  induction h with
  | null => exact readsBack_null
  | bool b => exact readsBack_bool b
  | int n => exact readsBack_int (writable_int.mp hw)
  | text s => exact readsBack_text s
  | list items ih =>
    exact readsBack_list items fun x hx => ih x hx (writable_list.mp hw x hx)
  | map keys values distinct ih =>
    exact readsBack_map keys values (fun e he => ih e he (writable_map.mp hw e he).2) distinct

/-- **JSON text reads back** as the value that was written, all but its pairs. -/
theorem read_compact {d : Data} (h : Held d) (hw : Writable d) :
    read (compact d) = .ok (joined d) := by
  have hlength : (compact d).toList.length = (compact d).length := String.length_toList
  have hreads : Reads (valueAt ((compact d).length + 1) (compact d).length) (compact d)
      (joined d) :=
    h.readsBack hw (by omega) (by omega)
  have hread := hreads [] ends_nil
  rw [List.append_nil] at hread
  rw [read, readWithin, (opensValue_compact h).skipBlanks, hread]
  rfl

end WorkflowPolicy.Json
