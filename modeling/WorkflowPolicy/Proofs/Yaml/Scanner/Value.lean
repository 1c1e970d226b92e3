/-
  WorkflowPolicy/Proofs/Yaml/Scanner/Value.lean
  =============================================
  **Values without items, scanned.**  A step of the scanner skips to the next token, gives
  up a key that may have started on an earlier line, and reads the token (`run_token`).
  Outside of brackets a state is known by its place, the open blocks and the tokens so
  far.  `Reads` says that all tokens are read from such a place, so a token that is written
  is one step back from what follows it (`Reads.run_written`).
-/
import WorkflowPolicy.Proofs.Yaml.DoubleQuoted
import WorkflowPolicy.Proofs.Yaml.Storable
import WorkflowPolicy.Yaml.Token.Scanner

namespace WorkflowPolicy.Yaml.Scanner

variable {x : Char} {rest : List Char} {line column index count n : Nat} {tokens ts : List Token}
  {blocks : List Nat} {keyAllowed : Bool} {key : Option KeyStart} {outer : List (Option KeyStart)}

/-! ### Between tokens -/

/-- The first character of a token comes next, or the end. -/
structure TokenStart (rest : List Char) : Prop where
  noGap : NoGap rest
  noComment : rest.head? ≠ some '#'

theorem tokenStart_nil : TokenStart [] := ⟨noGap_nil, by simp⟩

theorem skipToToken_blanks (h : TokenStart rest) (k steps : Nat) :
    skipToToken (steps + 1)
        ⟨⟨List.replicate k ' ' ++ rest, line, column, index⟩, tokens, count, blocks, keyAllowed,
          key, outer⟩
      = ⟨⟨rest, line, column + k, index + k⟩, tokens, count, blocks, keyAllowed, key, outer⟩ := by
  have hcomment : (rest.head? == some '#') = false := beq_eq_false_iff_ne.mpr h.noComment
  simp only [skipToToken, Cursor.skipWhile, Cursor.peek?, hcomment, Bool.false_eq_true, if_false,
    Cursor.span_blanks (p := (· == ' ')) rfl h.noGap.ne_blank, Cursor.lineBreak_of_noGap h.noGap]

theorem skipToToken_newLine (h : TokenStart rest) (k steps : Nat) :
    skipToToken (steps + 2)
        ⟨⟨newLine k ++ rest, line, column, index⟩, tokens, count, blocks, keyAllowed, key, []⟩
      = ⟨⟨rest, line + 1, k, index + 1 + k⟩, tokens, count, blocks, true, key, []⟩ := by
  have hskip : skipToToken (steps + 2)
        ⟨⟨newLine k ++ rest, line, column, index⟩, tokens, count, blocks, keyAllowed, key, []⟩
      = skipToToken (steps + 1) ⟨⟨List.replicate k ' ' ++ rest, line + 1, 0, index + 1⟩, tokens,
          count, blocks, keyAllowed || true, key, []⟩ := rfl
  rw [hskip, skipToToken_blanks h, Bool.or_true, Nat.zero_add]

theorem run_of_skipToToken {s s' : Scanner}
    (h : s.skipToToken (n + 1) = s'.skipToToken (n + 1)) : run (n + 1) s = run (n + 1) s' := by
  rw [run, run, approach, approach, h]

/-- A key that may have started on an earlier line, but need not. -/
def Stale (line : Nat) (key : Option KeyStart) : Prop :=
  ∀ k ∈ key, k.required = false ∧ k.line < line

theorem stale_none (line : Nat) : Stale line none := by simp [Stale]

/-- A key that may have started at a place, but need not. -/
def MayStartAt (line index : Nat) (key : Option KeyStart) : Prop :=
  ∀ k ∈ key, k.required = false ∧ k.line = line ∧ k.index = index

theorem MayStartAt.stale (h : MayStartAt line index key) (hlater : line < line') :
    Stale line' key := by
  intro k hk
  obtain ⟨hrequired, rfl, -⟩ := h k hk
  exact ⟨hrequired, hlater⟩

theorem forall_head?_cons {P : Nat → Prop} {b : Nat} {bs : List Nat} :
    (∀ a ∈ (b :: bs).head?, P a) ↔ P b := by
  simp

theorem review_stale (h : Stale line key) (rest : List Char) (column index : Nat) :
    review ⟨rest, line, column, index⟩ key = .ok none := by
  cases key with
  | none => rfl
  | some k =>
    obtain ⟨hrequired, hline⟩ := h k rfl
    simp [review, Nat.ne_of_lt hline, giveUp, hrequired]

/-- Blocks stay open at a column that they reach. -/
theorem closeBlocks_of_le (h : ∀ b ∈ blocks.head?, b ≤ column) (cursor : Cursor) :
    closeBlocks column ⟨cursor, tokens, count, blocks, keyAllowed, key, []⟩
      = ⟨cursor, tokens, count, blocks, keyAllowed, key, []⟩ := by
  have hopen : blocks.dropWhile (fun b => decide (column < b)) = blocks := by
    cases blocks with
    | nil => rfl
    | cons b bs => simp [h b rfl]
  simp [closeBlocks, nested, hopen]

/-- One step of the scanner, at the first character of a token. -/
theorem run_token {key' : Option KeyStart} (h : TokenStart (x :: rest))
    (hreview : review ⟨x :: rest, line, column, index⟩ key = .ok key')
    (hblocks : ∀ b ∈ blocks.head?, b ≤ column) :
    run (n + 1)
        ⟨⟨x :: rest, line, column, index⟩, tokens, count, blocks, keyAllowed, key, []⟩
      = (token x rest ⟨⟨x :: rest, line, column, index⟩, tokens, count, blocks, keyAllowed, key',
          []⟩).bind (run n) := by
  have hskip : skipToToken (n + 1)
        ⟨⟨x :: rest, line, column, index⟩, tokens, count, blocks, keyAllowed, key, []⟩
      = ⟨⟨x :: rest, line, column, index⟩, tokens, count, blocks, keyAllowed, key, []⟩ :=
    skipToToken_blanks h 0 n
  rw [run, approach, hskip]
  simp only [reviewKeys, hreview, List.mapM_nil, bind, Except.bind, pure, Except.pure,
    closeBlocks_of_le hblocks]

/-! ### Scalars without quotes -/

/-- What a scalar without quotes starts with. -/
inductive PlainStart : List Char → Prop
  | intro {x : Char} {rest : List Char} (hprintable : isPrintableAscii x = true)
      (hblank : x ≠ ' ') (hmark : startMarks.contains x = false)
      (hsolo : x = '?' ∨ x = ':' ∨ x = '-' → endsWord rest = false) : PlainStart (x :: rest)

theorem PlainStart.tokenStart (h : PlainStart rest) : TokenStart rest := by
  cases h with
  | @intro x rest hprintable hblank hmark hsolo =>
    refine ⟨?_, ?_⟩
    · rintro y ⟨⟩
      exact isGap_of_printable hprintable hblank
    · rintro ⟨⟩
      cases hmark

theorem PlainStart.startsHere (h : PlainStart rest) : PlainScalar.startsHere false rest = true := by
  cases h with
  | @intro x rest hprintable hblank hmark hsolo =>
    have hgap := isGap_of_printable hprintable hblank
    by_cases hx : x = '?' ∨ x = ':' ∨ x = '-'
    · rcases hx with rfl | rfl | rfl
      all_goals simp [PlainScalar.startsHere, hsolo]
    · have hmarks : PlainScalar.marks.contains x = false := by
        simp [PlainScalar.marks, startMarks] at hmark hx ⊢
        simp [hmark, hx]
      rw [PlainScalar.startsHere, hgap, hmarks]
      rfl

theorem token_plain {s : Scanner} (h : PlainStart (x :: rest)) (houter : s.outerKeys = [])
    (hmark : s.cursor.column ≠ 0 ∨ isDocumentMark (x :: rest) = false) :
    s.token x rest = s.plainScalar := by
  have hstart := h.startsHere
  cases h with
  | intro hprintable hblank hstartMark hsolo =>
    have hdocument : ∀ y, ¬ (x = y ∧ s.cursor.column = 0 ∧ isDocumentMark (x :: rest) = true) := by
      rintro y ⟨-, hcolumn, hdocument⟩
      rcases hmark with hne | hnone
      · exact hne hcolumn
      · rw [hnone] at hdocument
        cases hdocument
    have hnested : s.nested = false := by
      rw [nested, houter]
      rfl
    -- a mark that starts a plain text does not stand alone
    have halone : ∀ y, y = '?' ∨ y = ':' ∨ y = '-' → ¬ (x = y ∧ endsWord rest = true) := by
      rintro y hy ⟨rfl, hends⟩
      rw [hsolo hy] at hends
      cases hends
    simp only [startMarks, List.contains_cons, List.contains_nil, Bool.or_eq_false_iff,
      beq_eq_false_iff_ne] at hstartMark
    rw [token]
    simp [hstartMark, hdocument, hnested, halone, hstart]

theorem startsMarked_cons {cs : List Char} (h : startsMarked (x :: cs) = false) :
    startMarks.contains x = false
      ∧ (x = '?' ∨ x = ':' ∨ x = '-' → startsBlank cs = false) := by
  unfold startsMarked at h
  split at h
  · cases h
  · cases h
  · rename_i heq
    obtain ⟨rfl, rfl⟩ := List.cons.inj heq
    obtain ⟨hmark, hsolo⟩ := Bool.or_eq_false_iff.mp h
    refine ⟨hmark, ?_⟩
    rintro (rfl | rfl | rfl)
    all_goals exact hsolo
  · rename_i heq
    cases heq

/-- A text that stands without quotes starts a scalar, whatever it goes on with. -/
theorem plainStart_of_plain {cs more : List Char} (h : PlainScalar.Plain (x :: cs))
    (hmore : ∀ y ∈ cs.head?, y ≠ ' ' → more.head? = some y) : PlainStart (x :: more) := by
  obtain ⟨hx, hcs⟩ := printable_cons.mp h.printable
  obtain ⟨y, rest, heq, hblank⟩ := h.row.exists_head
  obtain ⟨rfl, rfl⟩ := List.cons.inj heq
  obtain ⟨hmark, hsolo⟩ := startsMarked_cons h.start
  refine .intro hx hblank hmark ?_
  intro hmarked
  cases cs with
  | nil => cases hsolo hmarked
  | cons z cs =>
    have hz : z ≠ ' ' := beq_eq_false_iff_ne.mp (hsolo hmarked)
    obtain ⟨more', rfl⟩ := List.head?_eq_some_iff.mp (hmore z rfl hz)
    exact isGap_of_printable (printable_cons.mp hcs).1 hz

theorem exists_plainStart_folded {cs : List Char} (h : PlainScalar.Plain cs) (p : Place)
    (more : List Char) :
    ∃ x rest, folded none none p cs ++ '\n' :: more = x :: rest ∧ PlainStart (x :: rest) := by
  obtain ⟨x, cs, rfl, hblank⟩ := h.row.exists_head
  obtain ⟨hx, hcs⟩ := printable_cons.mp h.printable
  have hfeed := ne_of_isPrintableAscii hx (y := '\n') (by decide)
  have hfirst : folded none none p (x :: cs) = x :: folded none (some x) (p.advance 1) cs := by
    rw [folded, if_neg hblank, if_neg hfeed, if_neg (Option.some_ne_none x)]
  refine ⟨x, _, by rw [hfirst]; rfl, plainStart_of_plain h ?_⟩
  intro y hy hne
  obtain ⟨cs, rfl⟩ := List.head?_eq_some_iff.mp hy
  have hfeed' := ne_of_isPrintableAscii (printable_cons.mp hcs).1 (y := '\n') (by decide)
  obtain ⟨rest, hrest⟩ := exists_folded_head hne hfeed' none (some x) (p.advance 1) cs
  rw [hrest]
  rfl

/-! ### Values without items -/

/-- From a place where a token may start, all tokens are read.  Blocks are open there, and
    tokens were read before. -/
def Reads (blocks : List Nat) (column : Nat) (rest : List Char) (tokens ts : List Token) : Prop :=
  ∀ line index count key, Stale line key → ∀ n, rest.length < n →
    run n ⟨⟨rest, line, column, index⟩, tokens, count, blocks, true, key, []⟩ = .ok ts

section Values

variable {more : List Char} {b c e : Nat} {bs : List Nat} {p : Place}

/-- The scanner goes on in a new line. -/
theorem Reads.run_newLine (h : Reads blocks e more tokens ts) (hmore : TokenStart more)
    (hkey : Stale (line + 1) key) (hn : (newLine e ++ more).length < n) (column index count : Nat)
    (keyAllowed : Bool) :
    run n ⟨⟨newLine e ++ more, line, column, index⟩, tokens, count, blocks, keyAllowed, key, []⟩
      = .ok ts := by
  have hlength : more.length + 1 ≤ (newLine e ++ more).length := by
    simp only [newLine, List.length_append, List.length_cons]
    omega
  obtain ⟨m, rfl⟩ : ∃ m, n = m + 2 := ⟨n - 2, by omega⟩
  have hskip : skipToToken (m + 2) ⟨⟨more, line + 1, e, index + 1 + e⟩, tokens, count, blocks, true,
        key, []⟩
      = ⟨⟨more, line + 1, e, index + 1 + e⟩, tokens, count, blocks, true, key, []⟩ :=
    skipToToken_blanks hmore 0 (m + 1)
  rw [run_of_skipToToken ((skipToToken_newLine hmore e m).trans hskip.symm)]
  exact h _ _ _ _ hkey _ (by omega)

/-- A key may start with a value, but deeper than the block it need not. -/
theorem noteKey_deeper (hb : b < c) (bs : List Nat) (rest : List Char) (line index : Nat)
    (tokens : List Token) (count : Nat) (keyAllowed : Bool) :
    ∃ key, MayStartAt line index key
      ∧ noteKey ⟨⟨rest, line, c, index⟩, tokens, count, b :: bs, keyAllowed, none, []⟩
        = .ok ⟨⟨rest, line, c, index⟩, tokens, count, b :: bs, keyAllowed, key, []⟩ := by
  cases keyAllowed with
  | false => exact ⟨none, nofun, rfl⟩
  | true =>
    have hne : (some b == some c) = false := beq_eq_false_iff_ne.mpr (by simp; omega)
    refine ⟨some ⟨count, false, line, c, index⟩, ?_, ?_⟩
    · rintro k ⟨⟩
      exact ⟨rfl, rfl, rfl⟩
    · simp [noteKey, dropKey, giveUp, nested, hne]

/-- A text without quotes is a token. -/
theorem Reads.run_plain {cs : List Char} (hplain : PlainScalar.Plain cs) (he : e ≤ b) (hb : b < c)
    (hp : b < p.indent) (hline : Line e more) (hkey : Stale line key)
    (h : Reads (b :: bs) e more (.scalar (.ofChars cs) true :: tokens) ts)
    (hn : (folded none none p cs ++ (newLine e ++ more)).length < n) (index count : Nat)
    (keyAllowed : Bool) :
    run n ⟨⟨folded none none p cs ++ (newLine e ++ more), line, c, index⟩, tokens, count, b :: bs,
      keyAllowed, key, []⟩ = .ok ts := by
  obtain ⟨line', index', hlater, hread⟩ :=
    PlainScalar.read_folded hplain hline (Nat.lt_succ_of_le he) hp hb line index
  obtain ⟨x, rest, htext, hstart⟩ :=
    exists_plainStart_folded hplain p (List.replicate e ' ' ++ more)
  obtain ⟨n, rfl⟩ := Nat.exists_eq_succ_of_ne_zero (Nat.ne_of_gt (Nat.zero_lt_of_lt hn))
  have hblocks : ∀ a ∈ (b :: bs).head?, a ≤ c := forall_head?_cons.mpr (Nat.le_of_lt hb)
  have hcolumn : c ≠ 0 := Nat.ne_of_gt (Nat.zero_lt_of_lt hb)
  have htext' : folded none none p cs ++ (newLine e ++ more) = x :: rest := htext
  have hlong : more.length < n := by
    simp only [newLine, List.length_append, List.length_cons] at hn
    omega
  rw [htext'] at hread ⊢
  obtain ⟨key', hkey', hnote⟩ := noteKey_deeper hb bs (x :: rest) line index tokens count
    keyAllowed
  -- a key that was noted here is given up on the next line
  have hstale : Stale line' key' := hkey'.stale hlater
  rw [run_token hstart.tokenStart (review_stale hkey _ _ _) hblocks,
    token_plain hstart rfl (.inl hcolumn), plainScalar, hnote]
  simp only [bind, Except.bind, nested, depth, List.isEmpty_nil, Bool.not_true, hread]
  exact h line' index' _ key' hstale n hlong

theorem token_quote (double : Bool) (rest : List Char) (s : Scanner) :
    s.token (QuotedScalar.quoteOf double) rest = s.leaf (quotedToken double) := by
  cases double with
  | false => simp [token, QuotedScalar.quoteOf]
  | true => simp [token, QuotedScalar.quoteOf]

theorem tokenStart_quote (double : Bool) (rest : List Char) :
    TokenStart (QuotedScalar.quoteOf double :: rest) := by
  constructor
  · rintro x ⟨⟩
    cases double <;> rfl
  · cases double <;> simp [QuotedScalar.quoteOf]

theorem Reads.run_quoted {s : Text} {body : List Char} {line' c' index' : Nat}
    (double : Bool) (hb : b < c) (hmore : TokenStart more) (hkey : Stale line key)
    (hlater : line ≤ line')
    (hread : QuotedScalar.read double ⟨body ++ (newLine e ++ more), line, c + 1, index + 1⟩
      = .ok (s, ⟨newLine e ++ more, line', c', index'⟩))
    (h : Reads (b :: bs) e more (.scalar s false :: tokens) ts)
    (hn : (QuotedScalar.quoteOf double :: (body ++ (newLine e ++ more))).length < n) (count : Nat)
    (keyAllowed : Bool) :
    run n ⟨⟨QuotedScalar.quoteOf double :: (body ++ (newLine e ++ more)), line, c, index⟩, tokens,
      count, b :: bs, keyAllowed, key, []⟩ = .ok ts := by
  obtain ⟨n, rfl⟩ := Nat.exists_eq_succ_of_ne_zero (Nat.ne_of_gt (Nat.zero_lt_of_lt hn))
  have hblocks : ∀ a ∈ (b :: bs).head?, a ≤ c := forall_head?_cons.mpr (Nat.le_of_lt hb)
  have hlong : (newLine e ++ more).length < n := by
    simp only [List.length_append, List.length_cons] at hn ⊢
    omega
  have hprintable : isPrintableAscii (QuotedScalar.quoteOf double) = true := by
    cases double <;> rfl
  obtain ⟨key', hkey', hnote⟩ := noteKey_deeper hb bs
    (QuotedScalar.quoteOf double :: (body ++ (newLine e ++ more))) line index tokens count
    keyAllowed
  -- the quotes can be a key up to the end of their last line
  have hstale : Stale (line' + 1) key' := hkey'.stale (Nat.lt_succ_of_le hlater)
  rw [run_token (tokenStart_quote double _) (review_stale hkey _ _ _) hblocks, token_quote, leaf,
    hnote]
  simp only [bind, Except.bind, quotedToken, Cursor.next_printable hprintable, hread]
  exact h.run_newLine hmore hstale hlong _ _ _ _

theorem tokenStart_written {text : List Char} {t : Token} (h : Written p text t) (e : Nat)
    (more : List Char) : TokenStart (text ++ (newLine e ++ more)) := by
  cases h with
  | plain hplain =>
    obtain ⟨x, rest, htext, hstart⟩ :=
      exists_plainStart_folded hplain p (List.replicate e ' ' ++ more)
    exact htext ▸ hstart.tokenStart
  | single hsingle => exact tokenStart_quote false _
  | double s => exact tokenStart_quote true _

theorem Reads.run_written {text : List Char} {t : Token} (hwritten : Written p text t)
    (he : e ≤ b) (hb : b < c) (hp : b < p.indent) (hwidth : p.indent < lineWidth)
    (hmore : TokenStart more) (hline : Line e more) (hkey : Stale line key)
    (h : Reads (b :: bs) e more (t :: tokens) ts)
    (hn : (text ++ (newLine e ++ more)).length < n) (index count : Nat) (keyAllowed : Bool) :
    run n ⟨⟨text ++ (newLine e ++ more), line, c, index⟩, tokens, count, b :: bs, keyAllowed, key,
      []⟩ = .ok ts := by
  have hpos : 0 < p.indent := Nat.lt_of_le_of_lt (Nat.zero_le b) hp
  cases hwritten with
  | plain hplain => exact h.run_plain hplain he hb hp hline hkey hn index count keyAllowed
  | @single cs hsingle =>
    have hhead : (newLine e ++ more).head? ≠ some '\'' := by simp [newLine]
    obtain ⟨line', c', index', hlater, hread⟩ := QuotedScalar.read_singleQuoted hsingle hhead
      (p := p.advance 1) hpos line (c + 1) (index + 1)
    rw [← List.singleton_append, ← List.append_assoc] at hread
    exact h.run_quoted false hb hmore hkey hlater hread hn count keyAllowed
  | double s =>
    obtain ⟨line', c', index', hlater, hread⟩ := QuotedScalar.read_doubleQuoted
      (p := p.advance 1) hpos hwidth s (newLine e ++ more) line (c + 1) (index + 1)
    rw [← List.singleton_append, ← List.append_assoc] at hread
    exact h.run_quoted true hb hmore hkey hlater hread hn count keyAllowed

/-! ### Empty collections -/

/-- A pair of brackets with nothing in between. -/
structure IsPair (first last : Char) (start finish : Token) : Prop where
  printable : isPrintableAscii first = true ∧ isPrintableAscii last = true
  noBlank : first ≠ ' ' ∧ last ≠ ' '
  noComment : first ≠ '#' ∧ last ≠ '#'
  openToken : ∀ rest s, token first rest s = s.openBracket start
  closeToken : ∀ rest s, token last rest s = s.closeBracket finish

theorem isPair_list : IsPair '[' ']' .listStart .listEnd := by
  refine ⟨by decide, by decide, by decide, ?_, ?_⟩
  · intro rest s
    simp [token]
  · intro rest s
    simp [token]

theorem isPair_map : IsPair '\x7b' '\x7d' .mapStart .mapEnd := by
  refine ⟨by decide, by decide, by decide, ?_, ?_⟩
  · intro rest s
    simp [token]
  · intro rest s
    simp [token]

/-- The step at the closing bracket of a pair. -/
theorem run_closeBracket {first last : Char} {start finish : Token}
    (hpair : IsPair first last start finish)
    (hkey : ∀ k ∈ key, k.line = line ∧ k.index + 1 = index) (rest : List Char)
    (column count n : Nat) (keyAllowed : Bool) :
    run (n + 1) ⟨⟨last :: rest, line, column, index⟩, tokens, count, blocks, keyAllowed, none,
        [key]⟩
      = run n ⟨⟨rest, line, column + 1, index + 1⟩, finish :: tokens, count + 1, blocks, false, key,
          []⟩ := by
  have hstart : TokenStart (last :: rest) := by
    refine ⟨?_, ?_⟩
    · rintro x ⟨⟩
      exact isGap_of_printable hpair.printable.2 hpair.noBlank.2
    · rintro ⟨⟩
      exact hpair.noComment.2 rfl
  have hskip : skipToToken (n + 1) ⟨⟨last :: rest, line, column, index⟩, tokens, count, blocks,
        keyAllowed, none, [key]⟩
      = ⟨⟨last :: rest, line, column, index⟩, tokens, count, blocks, keyAllowed, none, [key]⟩ :=
    skipToToken_blanks hstart 0 n
  -- the key outside of the brackets started one character before
  have hreview : review ⟨last :: rest, line, column, index⟩ key = .ok key := by
    cases key with
    | none => rfl
    | some k =>
      obtain ⟨hline, hindex⟩ := hkey k rfl
      have hshort : index - k.index ≤ keyLength := by
        rw [← hindex, Nat.add_sub_cancel_left]
        decide
      simp [review, hline, Nat.not_lt.mpr hshort]
  have hnone : ∀ c : Cursor, review c none = .ok none := fun _ => rfl
  have hclosed : ∀ s : Scanner, s.nested = true → closeBlocks column s = s := fun _ h => if_pos h
  rw [run, approach, hskip]
  simp only [reviewKeys, hnone, List.mapM_cons, List.mapM_nil, hreview, bind, Except.bind, pure,
    Except.pure]
  rw [hclosed _ rfl]
  simp only [hpair.closeToken, closeBracket, dropKey, giveUp, bind, Except.bind, pure, Except.pure,
    mark, push, Cursor.skip, Cursor.next_printable hpair.printable.2]

/-- An empty collection is a pair of tokens. -/
theorem Reads.run_empty {first last : Char} {start finish : Token}
    (hpair : IsPair first last start finish) (hb : b < c) (hmore : TokenStart more)
    (hkey : Stale line key) (h : Reads (b :: bs) e more (finish :: start :: tokens) ts)
    (hn : (first :: last :: (newLine e ++ more)).length < n) (index count : Nat)
    (keyAllowed : Bool) :
    run n ⟨⟨first :: last :: (newLine e ++ more), line, c, index⟩, tokens, count, b :: bs,
      keyAllowed, key, []⟩ = .ok ts := by
  obtain ⟨n, rfl⟩ : ∃ m, n = m + 2 := ⟨n - 2, by simp only [List.length_cons] at hn; omega⟩
  have hlong : (newLine e ++ more).length < n := by
    simp only [List.length_cons] at hn
    omega
  have hblocks : ∀ a ∈ (b :: bs).head?, a ≤ c := forall_head?_cons.mpr (Nat.le_of_lt hb)
  have hstart : TokenStart (first :: last :: (newLine e ++ more)) := by
    refine ⟨?_, ?_⟩
    · rintro x ⟨⟩
      exact isGap_of_printable hpair.printable.1 hpair.noBlank.1
    · rintro ⟨⟩
      exact hpair.noComment.1 rfl
  obtain ⟨key', hkey', hnote⟩ := noteKey_deeper hb bs
    (first :: last :: (newLine e ++ more)) line index tokens count keyAllowed
  have hnear : ∀ k ∈ key', k.line = line ∧ k.index + 1 = index + 1 := by
    intro k hk
    obtain ⟨-, hline, hindex⟩ := hkey' k hk
    exact ⟨hline, congrArg (· + 1) hindex⟩
  -- the brackets can be a key on their own line only
  have hstale : Stale (line + 1) key' := hkey'.stale (Nat.lt_succ_self line)
  rw [run_token hstart (review_stale hkey _ _ _) hblocks, hpair.openToken, openBracket, hnote]
  simp only [bind, Except.bind, pure, Except.pure, mark, push, Cursor.skip,
    Cursor.next_printable hpair.printable.1]
  rw [run_closeBracket hpair hnear]
  exact h.run_newLine hmore hstale hlong _ _ _ _

end Values

end WorkflowPolicy.Yaml.Scanner
