/-
  WorkflowPolicy/Proofs/Yaml/Scanner/Tree.lean
  ============================================
  **Data, scanned.**  What is written of storable data is scanned as its tokens, wherever
  it stands: as an item, behind a key, or as the whole text (`ofChars_write`).  The
  induction is on the data.  Each kind of data is read from a place where more tokens
  follow at a lower column, so the lemma for its items applies to all of them but the
  last, and to the last one with what follows the collection.
-/
import WorkflowPolicy.Proofs.Yaml.Scanner.Block

namespace WorkflowPolicy.Yaml.Scanner

variable {more : List Char} {tokens ts : List Token} {b c e n : Nat} {bs : List Nat} {d : Data}

/-! ### Text of data -/

theorem stack_cons_cons (c : Nat) (first second : List Char) (blocks : List (List Char)) :
    stack c (first :: second :: blocks) = first ++ (newLine c ++ stack c (second :: blocks)) := by
  simp [stack, List.intercalate]

theorem exists_stack (c : Nat) (first : List Char) (blocks : List (List Char)) :
    ∃ more, stack c (first :: blocks) = first ++ more := by
  cases blocks with
  | nil => exact ⟨[], by simp [stack, List.intercalate]⟩
  | cons second blocks => exact ⟨_, stack_cons_cons c first second blocks⟩

theorem block_simple (h : Simple d) (c : Nat) :
    block c c (Tree.ofData d) = scalarChars ⟨c, c, false⟩ d := by
  cases h <;> rfl

theorem valueChars_simple (h : Simple d) (c : Nat) (p : Place) :
    valueChars c p (Tree.ofData d) = ' ' :: scalarChars (p.advance 1) d := by
  cases h <;> rfl

theorem block_list (c : Nat) (x : Data) (xs : List Data) :
    block c c (Tree.ofData (.list (x :: xs)))
      = stack c (itemBlocks c (Tree.ofItems (x :: xs))) := by
  simp [Tree.ofData, Tree.ofItems, block, marks, marked]

theorem valueChars_list (c : Nat) (p : Place) (x : Data) (xs : List Data) :
    valueChars c p (Tree.ofData (.list (x :: xs)))
      = newLine c ++ stack c (itemBlocks c (Tree.ofItems (x :: xs))) := by
  simp [Tree.ofData, Tree.ofItems, valueChars, marks, spaced]

theorem block_map (c : Nat) (entry : Data × Data) (es : List (Data × Data)) :
    block c c (Tree.ofData (.map (entry :: es)))
      = stack c (entryBlocks c (Tree.ofEntries (entry :: es))) := by
  obtain ⟨k, v⟩ := entry
  simp [Tree.ofData, Tree.ofEntries, block, marks, marked]

theorem valueChars_map (c : Nat) (p : Place) (entry : Data × Data) (es : List (Data × Data)) :
    valueChars c p (Tree.ofData (.map (entry :: es)))
      = newLine (c + 2) ++ block (c + 2) (c + 2) (Tree.ofData (.map (entry :: es))) := by
  rw [block_map]
  obtain ⟨k, v⟩ := entry
  simp [Tree.ofData, Tree.ofEntries, valueChars, marks, spaced, levelWidth]

theorem itemBlocks_cons (c : Nat) (x : Data) (xs : List Data) :
    itemBlocks c (Tree.ofItems (x :: xs))
      = ('-' :: ' ' :: block (c + 2) (c + 2) (Tree.ofData x))
        :: itemBlocks c (Tree.ofItems xs) := by
  rw [Tree.ofItems, itemBlocks]
  rfl

/-- What stands behind the colon of a key starts with a gap. -/
theorem endsWord_valueChars (h : Storable n d) (c : Nat) (p : Place) (rest : List Char) :
    endsWord (valueChars c p (Tree.ofData d) ++ rest) = true := by
  cases h with
  | simple h =>
    rw [valueChars_simple h]
    rfl
  | @list n xs h =>
    cases xs with
    | nil => rfl
    | cons x xs =>
      rw [valueChars_list]
      rfl
  | @map n es hkeys hdistinct h =>
    cases es with
    | nil => rfl
    | cons entry es =>
      rw [Data.ofFields, List.map_cons, valueChars_map]
      rfl

/-! ### Keys -/

theorem isWord_plain {cs : List Char} (h : IsWord cs) : PlainScalar.Plain cs :=
  PlainScalar.plain_of_canBePlain h.plain

theorem scalarChars_key {cs : List Char} (h : IsWord cs) (p : Place) :
    scalarChars p (.text (.ofChars cs)) = cs := by
  have hquotes : quotesFor p.inKey cs = .none := if_pos ⟨h.tag, h.plain⟩
  rw [scalarChars, textChars, Text.chars?_ofChars]
  simp only [hquotes]
  exact (isWord_plain h).folded_oneWord h.oneWord p

theorem isBreak_of_printable {x : Char} (h : isPrintableAscii x = true) : isBreak x = false := by
  have hne : ∀ y ∈ ['\n', '\x85', '\u2028', '\u2029'], x ≠ y := by
    have hmarks : ['\n', '\x85', '\u2028', '\u2029'].all (!isPrintableAscii ·) = true := by decide
    exact fun y hy => ne_of_isPrintableAscii h (by simpa using List.all_eq_true.mp hmarks y hy)
  simp [isBreak, hne]

theorem isSimpleKey_of_isWord {cs : List Char} (h : IsWord cs) :
    isSimpleKey (.text (.ofChars cs)) = true := by
  have hplain := isWord_plain h
  have hne : Text.ofChars cs ≠ "" := fun heq => hplain.ne_nil (Text.ofChars_inj.mp heq)
  have hbreak : (cs.map CodePoint.char).any isBreak = false := by
    rw [List.any_eq_false, List.forall_mem_map]
    intro x hx
    simpa using isBreak_of_printable (hplain.printable x hx)
  simp [isSimpleKey, hne, hbreak, h.short]

theorem length_le_keyLength {cs : List Char} (h : IsWord cs) : cs.length ≤ keyLength := by
  have hshort := h.short
  simp only [keyWidth, keyLength] at hshort ⊢
  omega

theorem entryBlocks_cons {cs : List Char} (h : IsWord cs) (c : Nat) (v : Data)
    (es : List (Data × Data)) :
    entryBlocks c (Tree.ofEntries ((.text (.ofChars cs), v) :: es))
      = (cs ++ ':' :: valueChars c ⟨c + 2, c + cs.length + 1, false⟩ (Tree.ofData v))
        :: entryBlocks c (Tree.ofEntries es) := by
  rw [Tree.ofEntries, entryBlocks, if_pos (isSimpleKey_of_isWord h), scalarChars_key h]
  rfl

/-! ### Lines of tokens -/

/-- A line that starts with a token, or the end. -/
structure NextLine (column : Nat) (rest : List Char) : Prop extends Line column rest where
  noComment : rest.head? ≠ some '#'

theorem NextLine.tokenStart (h : NextLine c more) : TokenStart more := ⟨h.start, h.noComment⟩

theorem nextLine_end : NextLine 0 [] := ⟨⟨noGap_nil, rfl⟩, by simp⟩

theorem nextLine_of_tokenStart (h : TokenStart more) (hmark : isDocumentMark more = false)
    (c : Nat) : NextLine c more := by
  refine ⟨?_, h.noComment⟩
  cases c with
  | zero => exact ⟨h.noGap, hmark⟩
  | succ c => exact line_of_pos (Nat.succ_pos c) h.noGap

theorem nextLine_item (c : Nat) (rest : List Char) : NextLine c ('-' :: ' ' :: rest) := by
  refine nextLine_of_tokenStart (tokenStart_dash _) ?_ c
  cases rest with
  | nil => rfl
  | cons y rest => simp [isDocumentMark]

theorem nextLine_key {cs : List Char} (h : IsWord cs) (c : Nat) (rest : List Char) :
    NextLine c (cs ++ ':' :: rest) := by
  have hplain := isWord_plain h
  obtain ⟨x, more, htext, hstart⟩ := exists_plainStart_key hplain h.oneWord rest
  exact nextLine_of_tokenStart (htext ▸ hstart.tokenStart) (isDocumentMark_key hplain rest) c

/-! ### Data in its places -/

/-- Data that is scanned where a block may start at a column, deeper than the one around
    it. -/
structure ReadsBlock (c : Nat) (d : Data) : Prop where
  start : ∀ e more, TokenStart (block c c (Tree.ofData d) ++ (newLine e ++ more))
  reads : ∀ b bs e more tokens ts, b < c → e ≤ b → NextLine e more →
    Reads (b :: bs) e more ((dataTokens false d).reverse ++ tokens) ts →
    Reads (b :: bs) c (block c c (Tree.ofData d) ++ (newLine e ++ more)) tokens ts

/-- Data that is scanned behind a key at a column. -/
def ReadsBehind (c : Nat) (d : Data) : Prop :=
  ∀ column bs e more tokens ts, e ≤ c → NextLine e more →
    Reads (c :: bs) e more ((dataTokens true d).reverse ++ tokens) ts →
    ReadsValue (c :: bs)
      (valueChars c ⟨c + 2, column, false⟩ (Tree.ofData d) ++ (newLine e ++ more)) tokens ts

theorem ReadsBlock.item {x : Data} (h : ReadsBlock (c + 2) x) (he : e ≤ c) (hnext : NextLine e more)
    (hmore : Reads (c :: bs) e more ((dataTokens false x).reverse ++ (.item :: tokens)) ts) :
    Reads (c :: bs) c
      ('-' :: ' ' :: (block (c + 2) (c + 2) (Tree.ofData x) ++ (newLine e ++ more))) tokens ts := by
  have hread := h.reads c bs e more (.item :: tokens) ts (by omega) he hnext hmore
  exact hread.item (h.start e more)

theorem exists_stack_items (c : Nat) (x : Data) (xs : List Data) :
    ∃ rest, stack c (itemBlocks c (Tree.ofItems (x :: xs))) = '-' :: ' ' :: rest := by
  rw [itemBlocks_cons]
  obtain ⟨rest, hstack⟩ := exists_stack c ('-' :: ' ' :: block (c + 2) (c + 2) (Tree.ofData x))
    (itemBlocks c (Tree.ofItems xs))
  exact ⟨_, hstack⟩

/-- The items of a list that is open at their column. -/
theorem reads_items {x : Data} {xs : List Data} (h : ∀ y ∈ x :: xs, ReadsBlock (c + 2) y)
    (he : e ≤ c) (hnext : NextLine e more)
    (hmore : Reads (c :: bs) e more ((itemTokens (x :: xs)).reverse ++ tokens) ts) :
    Reads (c :: bs) c
      (stack c (itemBlocks c (Tree.ofItems (x :: xs))) ++ (newLine e ++ more)) tokens ts := by
  induction xs generalizing x tokens with
  | nil =>
    have hitem := h x List.mem_cons_self
    rw [itemBlocks_cons]
    show Reads _ _ (List.intercalate _ _ ++ _) _ _
    rw [Tree.ofItems, itemBlocks, List.intercalate_singleton]
    refine hitem.item he hnext ?_
    simpa [itemTokens] using hmore
  | cons y ys ih =>
    obtain ⟨hx, hrest⟩ := List.forall_mem_cons.mp h
    obtain ⟨rest, htext⟩ := exists_stack_items c y ys
    -- the items behind this one start on a new line, which ends it
    have hlater : Reads (c :: bs) c
        (stack c (itemBlocks c (Tree.ofItems (y :: ys))) ++ (newLine e ++ more))
        ((dataTokens false x).reverse ++ (.item :: tokens)) ts := by
      refine ih hrest ?_
      simpa [itemTokens] using hmore
    rw [itemBlocks_cons, itemBlocks_cons, stack_cons_cons, ← itemBlocks_cons]
    rw [htext] at hlater ⊢
    have hitem := hx.item (Nat.le_refl c) (nextLine_item c _) hlater
    simpa using hitem

theorem exists_stack_entries {cs : List Char} (h : IsWord cs) (c : Nat) {v : Data}
    (hv : Storable n v) (es : List (Data × Data)) (rest : List Char) :
    ∃ later, stack c (entryBlocks c (Tree.ofEntries ((.text (.ofChars cs), v) :: es))) ++ rest
        = cs ++ ':' :: later ∧ endsWord later = true := by
  rw [entryBlocks_cons h]
  obtain ⟨more, hstack⟩ := exists_stack c
    (cs ++ ':' :: valueChars c ⟨c + 2, c + cs.length + 1, false⟩ (Tree.ofData v))
    (entryBlocks c (Tree.ofEntries es))
  refine ⟨_, ?_, endsWord_valueChars hv c ⟨c + 2, c + cs.length + 1, false⟩ (more ++ rest)⟩
  rw [hstack]
  simp

theorem simpleToken_key {cs : List Char} (h : IsWord cs) :
    simpleToken (.text (.ofChars cs)) = .scalar (.ofChars cs) true := by
  rw [simpleToken, standsPlain_ofChars, decide_eq_true h.toIsPlain]

theorem ReadsBehind.entry {cs : List Char} {v : Data} (hread : ReadsBehind c v) (hcs : IsWord cs)
    (hv : Storable n v) (he : e ≤ c) (hnext : NextLine e more)
    (hmore : Reads (c :: bs) e more ((dataTokens true v).reverse
      ++ (.value :: simpleToken (.text (.ofChars cs)) :: .key :: tokens)) ts) :
    Reads (c :: bs) c
      (cs ++ ':' :: (valueChars c ⟨c + 2, c + cs.length + 1, false⟩ (Tree.ofData v)
        ++ (newLine e ++ more))) tokens ts := by
  rw [simpleToken_key hcs] at hmore
  exact (hread _ bs e more _ ts he hnext hmore).reads (isWord_plain hcs) hcs.oneWord
    (length_le_keyLength hcs) (endsWord_valueChars hv c _ _)

theorem reverse_entryTokens (s : Text) (v : Data) (es : List (Data × Data))
    (tokens : List Token) :
    (entryTokens ((.text s, v) :: es)).reverse ++ tokens
      = (entryTokens es).reverse ++ ((dataTokens true v).reverse
        ++ (.value :: simpleToken (.text s) :: .key :: tokens)) := by
  simp [entryTokens]

/-- The entries of a mapping that is open at their column. -/
theorem reads_entries {s : Text} {v : Data} {es : Fields Data}
    (hkeys : ∀ f ∈ (s, v) :: es, IsWordKey f.1) (hvalues : ∀ f ∈ (s, v) :: es, Storable n f.2)
    (h : ∀ f ∈ (s, v) :: es, ReadsBehind c f.2) (he : e ≤ c) (hnext : NextLine e more)
    (hmore : Reads (c :: bs) e more
      ((entryTokens ((.text s, v) :: es.toMapping)).reverse ++ tokens) ts) :
    Reads (c :: bs) c
      (stack c (entryBlocks c (Tree.ofEntries ((.text s, v) :: es.toMapping)))
        ++ (newLine e ++ more)) tokens ts := by
  induction es generalizing s v tokens with
  | nil =>
    obtain ⟨cs, rfl, hkey⟩ := hkeys (s, v) List.mem_cons_self
    rw [reverse_entryTokens] at hmore
    have hentry := (h _ List.mem_cons_self).entry hkey (hvalues _ List.mem_cons_self) he
      hnext hmore
    rw [entryBlocks_cons hkey]
    show Reads _ _ (List.intercalate _ [_] ++ _) _ _
    rw [List.intercalate_singleton]
    simpa using hentry
  | cons f es ih =>
    obtain ⟨s', v'⟩ := f
    obtain ⟨cs, rfl, hkey⟩ := hkeys (s, v) List.mem_cons_self
    have hvalue : Storable n v := hvalues _ List.mem_cons_self
    have hread : ReadsBehind c v := h _ List.mem_cons_self
    have hkeys' := (List.forall_mem_cons.mp hkeys).2
    have hvalues' := (List.forall_mem_cons.mp hvalues).2
    obtain ⟨cs', rfl, hkey'⟩ := hkeys' (s', v') List.mem_cons_self
    have hvalue' : Storable n v' := hvalues' _ List.mem_cons_self
    rw [reverse_entryTokens] at hmore
    -- the entries behind this one start on a new line, which ends its value
    have hlater := ih hkeys' hvalues' (List.forall_mem_cons.mp h).2 hmore
    obtain ⟨later, htext, hends⟩ := exists_stack_entries hkey' c hvalue' (Fields.toMapping es)
      (newLine e ++ more)
    rw [htext] at hlater
    have hentry := hread.entry hkey hvalue (Nat.le_refl c) (nextLine_key hkey' c later) hlater
    have hrows : Fields.toMapping ((Text.ofChars cs', v') :: es)
        = (.text (.ofChars cs'), v') :: Fields.toMapping es := rfl
    rw [entryBlocks_cons hkey, hrows, entryBlocks_cons hkey', stack_cons_cons,
      ← entryBlocks_cons hkey']
    simp only [List.append_assoc, htext]
    exact hentry

/-! ### Every kind of data -/

theorem readsBlock_simple (h : Simple d) (hc : c < lineWidth) : ReadsBlock c d := by
  have hwritten := written_simple h ⟨c, c, false⟩
  refine ⟨?_, ?_⟩
  · intro e more
    rw [block_simple h]
    exact tokenStart_written hwritten e more
  · intro b bs e more tokens ts hb he hnext hmore line index count key hkey n hn
    rw [dataTokens_simple h] at hmore
    rw [block_simple h] at hn ⊢
    exact Reads.run_written hwritten he hb hb hc hnext.tokenStart hnext.toLine hkey hmore hn index
      count true

theorem readsBehind_simple (h : Simple d) (hc : c + 2 < lineWidth) : ReadsBehind c d := by
  intro column bs e more tokens ts he hnext hmore line column' index count n hb hn
  have hwritten := written_simple h (Place.advance ⟨c + 2, column, false⟩ 1)
  have hdeeper : c < column' + 1 := Nat.lt_succ_of_lt (hb c rfl)
  rw [dataTokens_simple h] at hmore
  rw [valueChars_simple h, List.cons_append] at hn ⊢
  obtain ⟨n, rfl⟩ := Nat.exists_eq_succ_of_ne_zero (Nat.ne_of_gt (Nat.zero_lt_of_lt hn))
  rw [run_blank (tokenStart_written hwritten e more)]
  exact Reads.run_written hwritten he hdeeper (show c < c + 2 by omega) hc hnext.tokenStart
    hnext.toLine (stale_none line) hmore (Nat.lt_of_succ_lt hn) (index + 1) count false

theorem IsPair.tokenStart {first last : Char} {start finish : Token}
    (h : IsPair first last start finish) (rest : List Char) : TokenStart (first :: rest) := by
  refine ⟨?_, ?_⟩
  · rintro x ⟨⟩
    exact isGap_of_printable h.printable.1 h.noBlank.1
  · rintro ⟨⟩
    exact h.noComment.1 rfl

/-- An empty collection stands where a value could. -/
theorem reads_pair {first last : Char} {start finish : Token}
    (hpair : IsPair first last start finish)
    (hblock : block c c (Tree.ofData d) = [first, last])
    (htokens : dataTokens false d = [start, finish]) : ReadsBlock c d := by
  refine ⟨?_, ?_⟩
  · intro e more
    rw [hblock]
    exact hpair.tokenStart _
  · intro b bs e more tokens ts hb he hnext hmore line index count key hkey n hn
    rw [htokens] at hmore
    rw [hblock] at hn ⊢
    exact Reads.run_empty hpair hb hnext.tokenStart hkey hmore hn index count true

theorem readsBehind_pair {first last : Char} {start finish : Token}
    (hpair : IsPair first last start finish)
    (hvalue : ∀ p, valueChars c p (Tree.ofData d) = [' ', first, last])
    (htokens : dataTokens true d = [start, finish]) : ReadsBehind c d := by
  intro column bs e more tokens ts he hnext hmore line column' index count n hb hn
  have hdeeper : c < column' + 1 := Nat.lt_succ_of_lt (hb c rfl)
  rw [htokens] at hmore
  rw [hvalue] at hn ⊢
  obtain ⟨n, rfl⟩ := Nat.exists_eq_succ_of_ne_zero (Nat.ne_of_gt (Nat.zero_lt_of_lt hn))
  show run (n + 1) ⟨⟨' ' :: first :: last :: (newLine e ++ more), _, _, _⟩, _, _, _, _, _, _⟩ = _
  rw [run_blank (hpair.tokenStart _)]
  exact Reads.run_empty hpair hdeeper hnext.tokenStart (stale_none line) hmore
    (Nat.lt_of_succ_lt hn) (index + 1) count false

theorem readsBlock_list {xs : List Data} (h : ∀ x ∈ xs, ReadsBlock (c + 2) x) :
    ReadsBlock c (.list xs) := by
  cases xs with
  | nil => exact reads_pair isPair_list rfl rfl
  | cons x xs =>
    obtain ⟨rest, htext⟩ := exists_stack_items c x xs
    refine ⟨?_, ?_⟩
    · intro e more
      rw [block_list, htext]
      exact tokenStart_dash _
    · intro b bs e more tokens ts hb he hnext hmore
      -- the next line is less deep, so it closes the block behind the last item
      have hitems : Reads (c :: b :: bs) e more
          ((itemTokens (x :: xs)).reverse ++ (.blockListStart :: tokens)) ts := by
        refine Reads.close ?_ (Nat.lt_of_le_of_lt he hb) hnext.tokenStart
        simpa [dataTokens] using hmore
      have hread := reads_items h (Nat.le_trans he (Nat.le_of_lt hb)) hnext hitems
      rw [htext] at hread
      rw [block_list, htext]
      exact Reads.openList hread (forall_head?_cons.mpr hb)

theorem readsBehind_list {xs : List Data} (h : ∀ x ∈ xs, ReadsBlock (c + 2) x) :
    ReadsBehind c (.list xs) := by
  cases xs with
  | nil => exact readsBehind_pair isPair_list (fun _ => rfl) rfl
  | cons x xs =>
    intro column bs e more tokens ts he hnext hmore line column' index count n hb hn
    obtain ⟨rest, htext⟩ := exists_stack_items c x xs
    have hread := reads_items h he hnext (by simpa [dataTokens] using hmore)
    rw [valueChars_list, List.append_assoc] at hn ⊢
    rw [htext] at hread hn ⊢
    exact hread.run_newLine (tokenStart_dash _) (stale_none _) hn column' index count false

theorem readsBlock_map {es : Fields Data} (hkeys : ∀ f ∈ es, IsWordKey f.1)
    (hvalues : ∀ f ∈ es, Storable n f.2) (h : ∀ f ∈ es, ReadsBehind c f.2) :
    ReadsBlock c (.ofFields es) := by
  cases es with
  | nil => exact reads_pair isPair_map rfl rfl
  | cons entry es =>
    obtain ⟨s, v⟩ := entry
    obtain ⟨cs, rfl, hkey⟩ := hkeys (s, v) List.mem_cons_self
    have hvalue : Storable n v := hvalues _ List.mem_cons_self
    have hrows : Data.ofFields ((Text.ofChars cs, v) :: es)
        = .map ((.text (.ofChars cs), v) :: Fields.toMapping es) := rfl
    rw [hrows]
    refine ⟨?_, ?_⟩
    · intro e more
      obtain ⟨later, htext, -⟩ := exists_stack_entries hkey c hvalue (Fields.toMapping es)
        (newLine e ++ more)
      rw [block_map, htext]
      exact (nextLine_key hkey c later).tokenStart
    · intro b bs e more tokens ts hb he hnext hmore
      obtain ⟨later, htext, hends⟩ := exists_stack_entries hkey c hvalue (Fields.toMapping es)
        (newLine e ++ more)
      -- the next line is less deep, so it closes the block behind the last entry
      have hentries : Reads (c :: b :: bs) e more
          ((entryTokens ((.text (.ofChars cs), v) :: Fields.toMapping es)).reverse
            ++ (.blockMapStart :: tokens)) ts := by
        refine Reads.close ?_ (Nat.lt_of_le_of_lt he hb) hnext.tokenStart
        simpa [dataTokens] using hmore
      have hread := reads_entries hkeys hvalues h (Nat.le_trans he (Nat.le_of_lt hb)) hnext hentries
      rw [htext] at hread
      rw [block_map, htext]
      exact hread.openMap (isWord_plain hkey) hkey.oneWord (length_le_keyLength hkey) hends
        (forall_head?_cons.mpr hb)

theorem readsBehind_map {es : Fields Data} (h : ReadsBlock (c + 2) (.ofFields es)) :
    ReadsBehind c (.ofFields es) := by
  cases es with
  | nil => exact readsBehind_pair isPair_map (fun _ => rfl) rfl
  | cons entry es =>
    intro column bs e more tokens ts he hnext hmore line column' index count n hb hn
    have hrows : Data.ofFields (entry :: es)
        = .map ((.text entry.1, entry.2) :: Fields.toMapping es) := rfl
    have hread := h.reads c bs e more tokens ts (by omega) he hnext
      (by rw [hrows] at hmore ⊢; simpa [dataTokens] using hmore)
    have hstart := h.start e more
    rw [hrows] at hread hstart hn ⊢
    rw [valueChars_map, List.append_assoc] at hn ⊢
    exact hread.run_newLine hstart (stale_none _) hn column' index count false

/-- Data that does not nest too deep for the width of a line. -/
theorem reads_storable (h : Storable n d) :
    ∀ c, (c + 2 * n < lineWidth → ReadsBlock c d)
      ∧ (c + 2 + 2 * n < lineWidth → ReadsBehind c d) := by
  induction h with
  | simple h =>
    intro c
    exact ⟨fun hc => readsBlock_simple h (by omega), fun hc => readsBehind_simple h (by omega)⟩
  | list h ih =>
    intro c
    refine ⟨fun hc => readsBlock_list fun x hx => (ih x hx (c + 2)).1 (by omega), fun hc => ?_⟩
    exact readsBehind_list fun x hx => (ih x hx (c + 2)).1 (by omega)
  | map hkeys hdistinct h ih =>
    intro c
    refine ⟨fun hc => readsBlock_map hkeys h fun f hf => (ih f hf c).2 (by omega), fun hc => ?_⟩
    exact readsBehind_map (readsBlock_map hkeys h fun f hf => (ih f hf (c + 2)).2 (by omega))

/-! ### Whole texts -/

/-- The text of a mapping is scanned as the tokens of the mapping. -/
theorem ofChars_write {s : Text} {v : Data} {es : Fields Data}
    (hkeys : ∀ f ∈ (s, v) :: es, IsWordKey f.1) (hvalues : ∀ f ∈ (s, v) :: es, Storable n f.2)
    (hn : 2 + 2 * n < lineWidth) :
    Token.ofChars (write (Fields.toMapping ((s, v) :: es))).toList
      = dataTokens false (.ofFields ((s, v) :: es)) := by
  obtain ⟨cs, rfl, hkey⟩ := hkeys (s, v) List.mem_cons_self
  have hvalue : Storable n v := hvalues _ List.mem_cons_self
  have hbehind : ∀ f ∈ (Text.ofChars cs, v) :: es, ReadsBehind 0 f.2 := fun f hf =>
    (reads_storable (hvalues f hf) 0).2 (by omega)
  have hentries : Reads [0] 0
      (stack 0 (entryBlocks 0 (Tree.ofEntries ((.text (.ofChars cs), v) :: Fields.toMapping es)))
        ++ (newLine 0 ++ [])) [.blockMapStart] _ :=
    reads_entries hkeys hvalues hbehind (Nat.le_refl 0) nextLine_end (reads_end _)
  obtain ⟨later, htext, hends⟩ := exists_stack_entries hkey 0 hvalue (Fields.toMapping es)
    (newLine 0 ++ [])
  rw [htext] at hentries
  have hread := hentries.openMap (isWord_plain hkey) hkey.oneWord (length_le_keyLength hkey)
    hends (by simp)
  have hwrite : (write (Fields.toMapping ((Text.ofChars cs, v) :: es))).toList
      = cs ++ ':' :: later := by
    rw [write, writeTree, String.toList_ofList, ← htext]
    exact congrArg (· ++ ['\n']) (block_map 0 (.text (.ofChars cs), v) (Fields.toMapping es))
  obtain ⟨x, more, hstart, hplain⟩ :=
    exists_plainStart_key (isWord_plain hkey) hkey.oneWord later
  -- a key opens the text, so no mark of its byte order does
  have hmark : ((x :: more).head? == some byteOrderMark) = false := by
    cases hplain with
    | intro hprintable hblank hmark hsolo =>
      simpa using ne_of_isPrintableAscii hprintable (y := byteOrderMark) (by decide)
  have hrun := hread 0 0 0 none (stale_none 0) _ (Nat.lt_succ_self _)
  rw [hstart] at hrun
  rw [Token.ofChars, hwrite, hstart]
  simp only [Cursor.peek?, hmark, Bool.false_eq_true, if_false, hrun]
  simp [dataTokens, Data.ofFields, Fields.toMapping]

end WorkflowPolicy.Yaml.Scanner
