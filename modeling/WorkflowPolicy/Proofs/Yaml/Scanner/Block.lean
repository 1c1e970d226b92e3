/-
  WorkflowPolicy/Proofs/Yaml/Scanner/Block.lean
  =============================================
  **Blocks, scanned.**  A block is opened by its first item or by the colon of its first
  key, and closed by the first line that is less deep.  So a block that is opened can be
  taken for one that is open already, with a token more (`Reads.openList`,
  `Reads.openMap`), and one that is closed for one that was never open (`Reads.close`).
-/
import WorkflowPolicy.Proofs.Yaml.Scanner.Value

namespace WorkflowPolicy.Yaml.Scanner

variable {x : Char} {rest : List Char} {line column index count n : Nat} {tokens ts : List Token}
  {blocks : List Nat} {keyAllowed : Bool} {key : Option KeyStart}

/-! ### Ends -/

section Ends

variable {more : List Char} {b c e : Nat} {bs : List Nat}

theorem closeBlocks_cons (he : e < b) (cursor : Cursor) (tokens : List Token) (count : Nat)
    (keyAllowed : Bool) (key : Option KeyStart) :
    closeBlocks e ⟨cursor, tokens, count, b :: bs, keyAllowed, key, []⟩
      = closeBlocks e ⟨cursor, .blockEnd :: tokens, count + 1, bs, keyAllowed, key, []⟩ := by
  have hopen : (bs.dropWhile fun a => decide (e < a)).length ≤ bs.length :=
    (List.dropWhile_suffix _).length_le
  have hclosed : (b :: bs).length - (bs.dropWhile fun a => decide (e < a)).length
      = bs.length - (bs.dropWhile fun a => decide (e < a)).length + 1 := by
    rw [List.length_cons]
    omega
  have hdrop : (b :: bs).dropWhile (fun a => decide (e < a))
      = bs.dropWhile fun a => decide (e < a) := by
    simp [he]
  simp only [closeBlocks, nested, List.isEmpty_nil, Bool.not_true, Bool.false_eq_true, if_false,
    hdrop, hclosed, List.replicate_succ', List.append_assoc, List.singleton_append]
  congr 1
  omega

/-- A block ends at a line that is less deep. -/
theorem Reads.close (h : Reads bs e more (.blockEnd :: tokens) ts) (he : e < b)
    (hmore : TokenStart more) : Reads (b :: bs) e more tokens ts := by
  intro line index count key hkey n hn
  obtain ⟨n, rfl⟩ := Nat.exists_eq_succ_of_ne_zero (Nat.ne_of_gt (Nat.zero_lt_of_lt hn))
  have hrest := h line index (count + 1) key hkey (n + 1) hn
  have hskip : ∀ tokens count blocks, skipToToken (n + 1) ⟨⟨more, line, e, index⟩, tokens, count,
        blocks, true, key, []⟩
      = ⟨⟨more, line, e, index⟩, tokens, count, blocks, true, key, []⟩ :=
    fun _ _ _ => skipToToken_blanks hmore 0 n
  rw [run, approach, hskip] at hrest ⊢
  simp only [reviewKeys, review_stale hkey, List.mapM_nil, bind, Except.bind, pure,
    Except.pure] at hrest ⊢
  rwa [closeBlocks_cons he]

/-- The text ends, and with it the last block. -/
theorem reads_end (tokens : List Token) : Reads [0] 0 [] tokens (.blockEnd :: tokens).reverse := by
  intro line index count key hkey n hn
  obtain ⟨n, rfl⟩ := Nat.exists_eq_succ_of_ne_zero (Nat.ne_of_gt (Nat.zero_lt_of_lt hn))
  have hskip : skipToToken (n + 1) ⟨⟨[], line, 0, index⟩, tokens, count, [0], true, key, []⟩
      = ⟨⟨[], line, 0, index⟩, tokens, count, [0], true, key, []⟩ :=
    skipToToken_blanks tokenStart_nil 0 n
  rw [run, approach, hskip]
  simp only [reviewKeys, review_stale hkey, List.mapM_nil, bind, Except.bind, pure, Except.pure]
  rfl

end Ends

/-! ### Marks -/

section Marks

variable {b c : Nat} {bs : List Nat}

theorem run_blank (h : TokenStart rest) (line column index count n : Nat) (tokens : List Token)
    (blocks : List Nat) (keyAllowed : Bool) (key : Option KeyStart) :
    run (n + 1) ⟨⟨' ' :: rest, line, column, index⟩, tokens, count, blocks, keyAllowed, key, []⟩
      = run (n + 1) ⟨⟨rest, line, column + 1, index + 1⟩, tokens, count, blocks, keyAllowed, key,
          []⟩ := by
  have hskip : skipToToken (n + 1) ⟨⟨rest, line, column + 1, index + 1⟩, tokens, count, blocks,
        keyAllowed, key, []⟩
      = ⟨⟨rest, line, column + 1, index + 1⟩, tokens, count, blocks, keyAllowed, key, []⟩ :=
    skipToToken_blanks h 0 n
  exact run_of_skipToToken ((skipToToken_blanks h 1 n).trans hskip.symm)

theorem tokenStart_dash (rest : List Char) : TokenStart ('-' :: rest) := by
  refine ⟨?_, by simp⟩
  rintro x ⟨⟩
  rfl

theorem token_dash (rest : List Char) (s : Scanner) : s.token '-' (' ' :: rest) = s.item := by
  have hmark : isDocumentMark ('-' :: ' ' :: rest) = false := by
    cases rest with
    | nil => rfl
    | cons y rest => simp [isDocumentMark]
  have hends : endsWord (' ' :: rest) = true := rfl
  simp [token, hmark, hends]

theorem openBlock_deeper (hb : ∀ b ∈ bs.head?, b < c) (t : Token) (cursor : Cursor)
    (tokens : List Token) (count : Nat) (keyAllowed : Bool) (key : Option KeyStart) :
    openBlock t c ⟨cursor, tokens, count, bs, keyAllowed, key, []⟩
      = ⟨cursor, t :: tokens, count + 1, c :: bs, keyAllowed, key, []⟩ := by
  have hdepth : depth ⟨cursor, tokens, count, bs, keyAllowed, key, []⟩ ≤ c := by
    cases bs with
    | nil => exact Nat.zero_le c
    | cons b bs => exact hb b rfl
  rw [openBlock, if_pos hdepth]
  rfl

theorem openBlock_again (t : Token) (s : Scanner) (h : s.blocks.head? = some c) :
    openBlock t c s = s := by
  have hdepth : s.depth = c + 1 := by
    obtain ⟨bs, hbs⟩ := List.head?_eq_some_iff.mp h
    rw [depth, hbs]
  rw [openBlock, if_neg (hdepth ▸ Nat.not_succ_le_self c)]

/-- An item of a list that is open at its column. -/
theorem Reads.item (h : Reads (c :: bs) (c + 2) rest (.item :: tokens) ts)
    (hrest : TokenStart rest) : Reads (c :: bs) c ('-' :: ' ' :: rest) tokens ts := by
  intro line index count key hkey n hn
  obtain ⟨n, rfl⟩ : ∃ m, n = m + 2 := ⟨n - 2, by simp only [List.length_cons] at hn; omega⟩
  have hblocks : ∀ a ∈ (c :: bs).head?, a ≤ c := forall_head?_cons.mpr (Nat.le_refl c)
  have hitem : Scanner.item ⟨⟨'-' :: ' ' :: rest, line, c, index⟩, tokens, count, c :: bs, true,
        none, []⟩
      = .ok ⟨⟨' ' :: rest, line, c + 1, index + 1⟩, .item :: tokens, count + 1, c :: bs, true, none,
          []⟩ := by
    rw [Scanner.item, openBlockHere, openBlock_again _ _ rfl]
    simp only [nested, List.isEmpty_nil, Bool.not_true, Bool.false_eq_true, if_false, if_true,
      dropKey, giveUp, bind, Except.bind, pure, Except.pure, mark, push, Cursor.skip,
      Cursor.next_printable (x := '-') (by decide)]
  rw [run_token (tokenStart_dash _) (review_stale hkey _ _ _) hblocks, token_dash, hitem]
  show run (n + 1) _ = _
  rw [run_blank hrest]
  exact h line _ _ none (stale_none line) (n + 1) (by simp only [List.length_cons] at hn; omega)

/-- The first item of a list opens its block. -/
theorem Reads.openList (h : Reads (c :: bs) c ('-' :: ' ' :: rest) (.blockListStart :: tokens) ts)
    (hb : ∀ b ∈ bs.head?, b < c) : Reads bs c ('-' :: ' ' :: rest) tokens ts := by
  intro line index count key hkey n hn
  obtain ⟨n, rfl⟩ := Nat.exists_eq_succ_of_ne_zero (Nat.ne_of_gt (Nat.zero_lt_of_lt hn))
  have hinner : ∀ a ∈ (c :: bs).head?, a ≤ c := forall_head?_cons.mpr (Nat.le_refl c)
  -- with the block open already, the dash is read in the same way
  have hopened := h line index (count + 1) key hkey (n + 1) hn
  have hitem : Scanner.item ⟨⟨'-' :: ' ' :: rest, line, c, index⟩, tokens, count, bs, true, none,
        []⟩
      = Scanner.item ⟨⟨'-' :: ' ' :: rest, line, c, index⟩, .blockListStart :: tokens, count + 1,
          c :: bs, true, none, []⟩ := by
    rw [Scanner.item, Scanner.item, openBlockHere, openBlockHere, openBlock_deeper hb,
      openBlock_again _ _ rfl]
    rfl
  rw [run_token (tokenStart_dash _) (review_stale hkey _ _ _) hinner, token_dash] at hopened
  rw [run_token (tokenStart_dash _) (review_stale hkey _ _ _) fun b hmem =>
    Nat.le_of_lt (hb b hmem), token_dash, hitem]
  exact hopened

end Marks

/-! ### Keys -/

section Keys

variable {cs : List Char} {c : Nat} {bs : List Nat}

/-- A key starts no document, not even at the start of a line. -/
theorem isDocumentMark_key (h : PlainScalar.Plain cs) (rest : List Char) :
    isDocumentMark (cs ++ ':' :: rest) = false := by
  rw [Bool.eq_false_iff]
  intro hmark
  have hstart := h.start
  match cs with
  | [] => cases rest with
    | nil => cases hmark
    | cons y rest => cases rest <;> simp [isDocumentMark] at hmark
  | [a] =>
    cases rest with
    | nil => cases hmark
    | cons y rest =>
      simp only [isDocumentMark, List.cons_append, List.nil_append, Bool.and_eq_true,
        beq_iff_eq] at hmark
      obtain ⟨⟨⟨rfl, -⟩, hletter⟩, -⟩ := hmark
      cases hletter
  | [a, b] =>
    simp only [isDocumentMark, List.cons_append, List.nil_append, Bool.and_eq_true,
      beq_iff_eq] at hmark
    obtain ⟨⟨⟨rfl, rfl⟩, hletter⟩, -⟩ := hmark
    cases hletter
  | a :: b :: d :: cs =>
    simp only [isDocumentMark, List.cons_append, Bool.and_eq_true, Bool.or_eq_true,
      beq_iff_eq] at hmark
    obtain ⟨⟨⟨rfl, rfl⟩, rfl | rfl⟩, -⟩ := hmark
    · cases hstart
    · cases hstart

theorem exists_plainStart_key (h : PlainScalar.Plain cs) (hblank : ' ' ∉ cs) (rest : List Char) :
    ∃ x more, cs ++ ':' :: rest = x :: more ∧ PlainStart (x :: more) := by
  obtain ⟨x, cs, rfl, -⟩ := h.row.exists_head
  refine ⟨x, _, rfl, plainStart_of_plain h ?_⟩
  intro y hy hne
  obtain ⟨cs, rfl⟩ := List.head?_eq_some_iff.mp hy
  rfl

theorem isGap_of_endsWord (h : endsWord rest = true) : ∀ y ∈ rest.head?, isGap y = true := by
  intro y hy
  obtain ⟨rest, rfl⟩ := List.head?_eq_some_iff.mp hy
  exact h

theorem tokenStart_colon (rest : List Char) : TokenStart (':' :: rest) := by
  refine ⟨?_, by simp⟩
  rintro x ⟨⟩
  rfl

theorem token_colon (hrest : endsWord rest = true) (s : Scanner) :
    s.token ':' rest = s.value := by
  simp [token, hrest]

/-- A key and its colon are two steps. -/
theorem run_key (h : PlainScalar.Plain cs) (hblank : ' ' ∉ cs) (hshort : cs.length ≤ keyLength)
    (hrest : endsWord rest = true) (hkey : Stale line key) (hblocks : ∀ b ∈ blocks.head?, b ≤ c)
    (index count n : Nat) (tokens : List Token) :
    run (n + 2)
        ⟨⟨cs ++ ':' :: rest, line, c, index⟩, tokens, count, blocks, true, key, []⟩
      = (value ⟨⟨':' :: rest, line, c + cs.length, index + cs.length⟩,
          .scalar (.ofChars cs) true :: tokens, count + 1, blocks, false,
          some ⟨count, blocks.head? == some c, line, c, index⟩, []⟩).bind (run n) := by
  obtain ⟨x, more, htext, hstart⟩ := exists_plainStart_key h hblank rest
  have hread := PlainScalar.read_key h hblank (isGap_of_endsWord hrest)
    (depth ⟨⟨cs ++ ':' :: rest, line, c, index⟩, tokens, count, blocks, true, none, []⟩) line c
    index
  have hmark := isDocumentMark_key h rest
  have hlater : ∀ b ∈ blocks.head?, b ≤ c + cs.length := fun b hb =>
    Nat.le_add_right_of_le (hblocks b hb)
  -- the key ends on its line and within its length, so it is still awaited
  have hreview : review ⟨':' :: rest, line, c + cs.length, index + cs.length⟩
        (some ⟨count, blocks.head? == some c, line, c, index⟩)
      = .ok (some ⟨count, blocks.head? == some c, line, c, index⟩) := by
    have hnear : ¬ (line ≠ line ∨ keyLength < index + cs.length - index) := by omega
    exact if_neg hnear
  have hscalar : plainScalar ⟨⟨cs ++ ':' :: rest, line, c, index⟩, tokens, count, blocks, true,
        none, []⟩
      = .ok ⟨⟨':' :: rest, line, c + cs.length, index + cs.length⟩,
          .scalar (.ofChars cs) true :: tokens, count + 1, blocks, false,
          some ⟨count, blocks.head? == some c, line, c, index⟩, []⟩ := by
    have hnote : noteKey ⟨⟨cs ++ ':' :: rest, line, c, index⟩, tokens, count, blocks, true, none,
          []⟩
        = .ok ⟨⟨cs ++ ':' :: rest, line, c, index⟩, tokens, count, blocks, true,
            some ⟨count, blocks.head? == some c, line, c, index⟩, []⟩ := rfl
    rw [plainScalar, hnote]
    simp only [bind, Except.bind, nested, depth, List.isEmpty_nil, Bool.not_true] at hread ⊢
    rw [hread]
    rfl
  rw [htext] at hmark hscalar ⊢
  rw [run_token hstart.tokenStart (review_stale hkey _ _ _) hblocks,
    token_plain hstart rfl (.inr hmark), hscalar]
  show run (n + 1) _ = _
  rw [run_token (tokenStart_colon rest) hreview hlater, token_colon hrest]

/-- Behind the colon of a key all tokens are read. -/
def ReadsValue (blocks : List Nat) (rest : List Char) (tokens ts : List Token) : Prop :=
  ∀ line column index count n, (∀ b ∈ blocks.head?, b < column) → rest.length < n →
    run n ⟨⟨rest, line, column, index⟩, tokens, count, blocks, false, none, []⟩ = .ok ts

theorem insertAt_one (t t' : Token) (cursor : Cursor) (tokens : List Token) (count : Nat)
    (blocks : List Nat) (keyAllowed : Bool) (key : Option KeyStart) :
    insertAt ⟨cursor, t :: tokens, count + 1, blocks, keyAllowed, key, []⟩ count t'
      = ⟨cursor, t :: t' :: tokens, count + 2, blocks, keyAllowed, key, []⟩ := by
  rw [insertAt, Nat.add_sub_cancel_left]
  rfl

theorem insertAt_two (t t' t'' : Token) (cursor : Cursor) (tokens : List Token) (count : Nat)
    (blocks : List Nat) (keyAllowed : Bool) (key : Option KeyStart) :
    insertAt ⟨cursor, t :: t' :: tokens, count + 2, blocks, keyAllowed, key, []⟩ count t''
      = ⟨cursor, t :: t' :: t'' :: tokens, count + 3, blocks, keyAllowed, key, []⟩ := by
  rw [insertAt, Nat.add_sub_cancel_left]
  rfl

/-- The colon of a key in a mapping that is open at its column. -/
theorem value_again (t : Token) (tokens : List Token) (line column index count k : Nat)
    (required : Bool) :
    value ⟨⟨':' :: rest, line, column, index⟩, t :: tokens, count + 1, c :: bs, false,
        some ⟨count, required, line, c, k⟩, []⟩
      = .ok ⟨⟨rest, line, column + 1, index + 1⟩, .value :: t :: .key :: tokens, count + 3, c :: bs,
          false, none, []⟩ := by
  have hopen : decide (c + 1 ≤ c) = false := decide_eq_false (Nat.not_succ_le_self c)
  simp only [value, insertAt_one, depth, hopen, Bool.and_false, Bool.false_eq_true, if_false, mark,
    push, Cursor.skip, Cursor.next_printable (x := ':') (by decide)]

/-- The colon of the first key of a mapping opens its block. -/
theorem value_first (hb : ∀ b ∈ bs.head?, b < c) (t : Token) (tokens : List Token)
    (line column index count k : Nat) (required : Bool) :
    value ⟨⟨':' :: rest, line, column, index⟩, t :: tokens, count + 1, bs, false,
        some ⟨count, required, line, c, k⟩, []⟩
      = .ok ⟨⟨rest, line, column + 1, index + 1⟩,
          .value :: t :: .key :: .blockMapStart :: tokens, count + 4, c :: bs, false, none,
          []⟩ := by
  have hopen : ∀ tokens' count', decide (depth ⟨⟨':' :: rest, line, column, index⟩, tokens', count',
      bs, false, none, []⟩ ≤ c) = true := by
    intro tokens' count'
    cases bs with
    | nil => rfl
    | cons b bs => exact decide_eq_true (hb b rfl)
  simp only [value, insertAt_one, hopen, nested, List.isEmpty_nil, Bool.not_true, Bool.not_false,
    Bool.and_true, if_true, insertAt_two, mark, push, Cursor.skip,
    Cursor.next_printable (x := ':') (by decide)]

theorem ReadsValue.reads (h : ReadsValue (c :: bs) rest
      (.value :: .scalar (.ofChars cs) true :: .key :: tokens) ts)
    (hplain : PlainScalar.Plain cs) (hblank : ' ' ∉ cs) (hshort : cs.length ≤ keyLength)
    (hrest : endsWord rest = true) : Reads (c :: bs) c (cs ++ ':' :: rest) tokens ts := by
  intro line index count key hkey n hn
  have hpos := List.length_pos_iff.mpr hplain.ne_nil
  rw [List.length_append, List.length_cons] at hn
  obtain ⟨n, rfl⟩ : ∃ m, n = m + 2 := ⟨n - 2, by omega⟩
  have hblocks : ∀ a ∈ (c :: bs).head?, a ≤ c := forall_head?_cons.mpr (Nat.le_refl c)
  have hcolumn : ∀ a ∈ (c :: bs).head?, a < c + cs.length + 1 :=
    forall_head?_cons.mpr (by omega)
  rw [run_key hplain hblank hshort hrest hkey hblocks, value_again]
  exact h _ _ _ _ n hcolumn (by omega)

/-- The first key of a mapping opens its block. -/
theorem Reads.openMap
    (h : Reads (c :: bs) c (cs ++ ':' :: rest) (.blockMapStart :: tokens) ts)
    (hplain : PlainScalar.Plain cs) (hblank : ' ' ∉ cs) (hshort : cs.length ≤ keyLength)
    (hrest : endsWord rest = true) (hb : ∀ b ∈ bs.head?, b < c) :
    Reads bs c (cs ++ ':' :: rest) tokens ts := by
  intro line index count key hkey n hn
  have hpos := List.length_pos_iff.mpr hplain.ne_nil
  have hlength := hn
  rw [List.length_append, List.length_cons] at hlength
  obtain ⟨n, rfl⟩ : ∃ m, n = m + 2 := ⟨n - 2, by omega⟩
  have hinner : ∀ a ∈ (c :: bs).head?, a ≤ c := forall_head?_cons.mpr (Nat.le_refl c)
  have hopened := h line index (count + 1) key hkey (n + 2) hn
  rw [run_key hplain hblank hshort hrest hkey hinner, value_again] at hopened
  rw [run_key hplain hblank hshort hrest hkey fun b hmem => Nat.le_of_lt (hb b hmem),
    value_first hb]
  exact hopened

end Keys

end WorkflowPolicy.Yaml.Scanner
