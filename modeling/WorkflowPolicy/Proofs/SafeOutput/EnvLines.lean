/-
  WorkflowPolicy/Proofs/SafeOutput/EnvLines.lean
  ==============================================
  **The environment as lines of a job step.**  A line is read as its indent, a key up to the
  first colon with a space, and a quoted value.  Quoting leaves nothing that ends a line, and
  reads back all but the pairs of a value.  Names are written as they are, so the text reads
  back exactly if every name is plain and no value has a pair (`readEnv?_envText_iff`).

  The signals of the compiler have plain names; which others there are is up to the author
  (`ofFrontmatter_envReadsBack`).  A name with a line feed even forges a signal
  (`ofFrontmatter_forgedLine`).
-/
import WorkflowPolicy.Proofs.Json.Quoted
import WorkflowPolicy.Proofs.SafeOutput.Signals
import WorkflowPolicy.Proofs.Text.Lines
import WorkflowPolicy.Proofs.Workflow.Reading

namespace WorkflowPolicy

open WorkflowPolicy.Text (Unbroken unbroken_append unbroken_cons)

theorem mapM_eq_some_iff {α β : Type} {f : α → Option β} {xs : List α} {ys : List β} :
    xs.mapM f = some ys ↔ xs.map f = ys.map some := by
  induction xs generalizing ys with
  | nil => cases ys <;> simp
  | cons x xs ih =>
    rw [List.mapM_cons, List.map_cons]
    constructor
    · intro h
      simp only [bind, Option.bind_eq_some_iff, pure, Option.some.injEq] at h
      obtain ⟨y, hy, ys', hys, rfl⟩ := h
      rw [hy, ih.mp hys, List.map_cons]
    · intro h
      cases ys with
      | nil => cases h
      | cons y ys =>
        obtain ⟨hy, hys⟩ := List.cons.inj h
        simp [hy, ih.mpr hys]

theorem Data.exists_mem_textMap_iff {d : Data} {name : Text} :
    (∃ e ∈ (d.textMap?).getD [], e.1 = name)
      ↔ ∃ vars k v, d = .map vars ∧ (k, Data.text v) ∈ vars ∧ k.display = name := by
  cases d with
  | map vars =>
    -- entries with one name replace each other, and the name stays
    have hwritten : (∃ e ∈ ((Data.map vars).textMap?).getD [], e.1 = name)
        ↔ ∃ e ∈ vars.filterMap fun e => (e.2.text?).map (e.1.display, ·), e.1 = name := by
      refine (Assoc.exists_mem_insertAll_iff id).trans ?_
      simp
    rw [hwritten]
    constructor
    · rintro ⟨e, he, rfl⟩
      obtain ⟨⟨k, d⟩, hentry, hd⟩ := List.mem_filterMap.mp he
      obtain ⟨v, hv, rfl⟩ := Option.map_eq_some_iff.mp hd
      obtain rfl := Data.text?_eq_some.mp hv
      exact ⟨vars, k, v, rfl, hentry, rfl⟩
    · rintro ⟨vars', k, v, hvars, hentry, rfl⟩
      obtain rfl := Data.map.inj hvars
      exact ⟨(k.display, v), List.mem_filterMap.mpr ⟨(k, .text v), hentry, rfl⟩, rfl⟩
  | _ => simp [Data.textMap?]

namespace SafeOutput.Plan

/-! ### Reading lines -/

/-- What follows the indent. -/
def afterIndent? : Nat → List CodePoint → Option (List CodePoint)
  | 0, cs => some cs
  | n + 1, .char ' ' :: cs => afterIndent? n cs
  | _ + 1, _ => none

/-- The key up to the first colon with a space, and what follows the two. -/
def splitKey? : List CodePoint → Option (List CodePoint × List CodePoint)
  | .char ':' :: .char ' ' :: rest => some ([], rest)
  | c :: rest => (splitKey? rest).map fun r => (c :: r.1, r.2)
  | [] => none

/-- The text of a line that holds a quoted text and nothing else. -/
def quoted? (s : Text) : Option (List CodePoint) :=
  match s.chars?.bind Json.decode? with
  | some (text, []) => some text
  | _ => none

def entryOf? (indent : Nat) (line : Text) : Option (Text × Text) := do
  let (key, value) ← splitKey? (← afterIndent? indent line.toList)
  return (Text.ofList key, Text.ofList (← quoted? (Text.ofList value)))

def readEnv? (indent : Nat) (text : Text) : Option (Fields Text) :=
  (Text.lines text).mapM (entryOf? indent)

def envText (p : Plan) (indent : Nat) : Text := Text.joinLines (p.envLines indent)

/-- A key can be read from the start of a line. -/
def IsKey (cs : List CodePoint) : Prop := ¬ [.char ':', .char ' '] <:+: cs

/-- A name that can be written as it is. -/
def IsPlain (name : Text) : Prop := Unbroken name.toList ∧ IsKey name.toList

/-- An entry as it is read: a value has one character in the place of every pair. -/
def joinedEntry (e : Text × Text) : Text × Text := (e.1, ⟨Json.joinPairs e.2.toList⟩)

/-! ### One line -/

theorem afterIndent?_eq_some {n : Nat} {cs rest : List CodePoint} :
    afterIndent? n cs = some rest ↔ cs = List.replicate n (.char ' ') ++ rest := by
  fun_induction afterIndent? n cs with
  | case1 cs => simp [eq_comm]
  | case2 n cs ih => rw [ih, List.replicate_succ, List.cons_append, List.cons_inj_right]
  | case3 n cs hspace =>
    constructor
    · intro h
      cases h
    · intro h
      exact absurd h (hspace _)

theorem isKey_cons {c : CodePoint} {cs : List CodePoint} :
    IsKey (c :: cs) ↔ ¬ (c = .char ':' ∧ cs.head? = some (.char ' ')) ∧ IsKey cs := by
  have hhead : [.char ' '] <+: cs ↔ cs.head? = some (.char ' ') := by
    cases cs with
    | nil => simp
    | cons d cs => simp [List.cons_prefix_cons, eq_comm]
  rw [IsKey, List.infix_cons_iff, not_or, List.cons_prefix_cons, hhead, eq_comm]
  rfl

theorem splitKey?_cons {c : CodePoint} {cs : List CodePoint}
    (h : ¬ (c = .char ':' ∧ cs.head? = some (.char ' '))) :
    splitKey? (c :: cs) = (splitKey? cs).map fun r => (c :: r.1, r.2) := by
  rw [splitKey?]
  intro rest hc hcs
  exact h ⟨hc, by rw [hcs]; rfl⟩

theorem splitKey?_append {key : List CodePoint} (h : IsKey key) (rest : List CodePoint) :
    splitKey? (key ++ .char ':' :: .char ' ' :: rest) = some (key, rest) := by
  induction key with
  | nil => rfl
  | cons c key ih =>
    rw [isKey_cons] at h
    have hnext : ¬ (c = .char ':'
        ∧ (key ++ .char ':' :: .char ' ' :: rest).head? = some (.char ' ')) := by
      rintro ⟨hc, hhead⟩
      cases key with
      | nil => cases hhead
      | cons d key => exact h.1 ⟨hc, hhead⟩
    rw [List.cons_append, splitKey?_cons hnext, ih h.2]
    rfl

theorem splitKey?_eq_some {cs key rest : List CodePoint} (h : splitKey? cs = some (key, rest)) :
    cs = key ++ .char ':' :: .char ' ' :: rest ∧ IsKey key := by
  fun_induction splitKey? cs generalizing key with
  | case1 rest' =>
    obtain ⟨rfl, rfl⟩ := Prod.mk.inj (Option.some.inj h)
    exact ⟨rfl, by simp [IsKey]⟩
  | case2 c cs hnext ih =>
    obtain ⟨⟨key', rest'⟩, hsplit, hpair⟩ := Option.map_eq_some_iff.mp h
    obtain ⟨rfl, rfl⟩ := Prod.mk.inj hpair
    obtain ⟨rfl, hkey⟩ := ih hsplit
    refine ⟨rfl, isKey_cons.mpr ⟨?_, hkey⟩⟩
    -- a colon and a blank here would have ended the key
    rintro ⟨hc, hhead⟩
    cases key' with
    | nil => cases hhead
    | cons d key' =>
      obtain rfl := Option.some.inj hhead
      exact hnext _ hc rfl
  | case3 => cases h

theorem quoted?_encode (s : Text) : quoted? (Json.encode s) = some (Json.joinPairs s.toList) := by
  have hread := Json.decode?_encodeCodes s.toList []
  rw [List.append_nil] at hread
  rw [quoted?, Text.chars?_ofString, Option.bind_some, Json.encode, String.toList_ofList, hread]

def entryLine (indent : Nat) (e : Text × Text) : Text :=
  Text.ofChars (List.replicate indent ' ') ++ e.1 ++ ": " ++ Json.encode e.2

theorem toList_entryLine (indent : Nat) (e : Text × Text) : (entryLine indent e).toList
    = List.replicate indent (.char ' ')
      ++ (e.1.toList ++ .char ':' :: .char ' ' :: (Json.encode e.2 : Text).toList) := by
  simp [entryLine]

theorem envLines_eq (p : Plan) (indent : Nat) : p.envLines indent = p.env.map (entryLine indent) :=
  rfl

theorem entryOf?_eq_some {indent : Nat} {line : Text} {e : Text × Text} :
    entryOf? indent line = some e ↔ ∃ value, line.toList
      = List.replicate indent (.char ' ') ++ (e.1.toList ++ .char ':' :: .char ' ' :: value)
      ∧ IsKey e.1.toList ∧ quoted? (Text.ofList value) = some e.2.toList := by
  obtain ⟨name, text⟩ := e
  constructor
  · intro h
    simp only [entryOf?, bind, Option.bind_eq_some_iff, pure, Option.some.injEq] at h
    obtain ⟨rest, hindent, ⟨key, value⟩, hsplit, cs, hquoted, hpair⟩ := h
    obtain ⟨rfl, rfl⟩ := Prod.mk.inj hpair
    obtain ⟨rfl, hkey⟩ := splitKey?_eq_some hsplit
    exact ⟨value, afterIndent?_eq_some.mp hindent, hkey, hquoted⟩
  · rintro ⟨value, hline, hkey, hquoted⟩
    have hindent := afterIndent?_eq_some.mpr hline
    simp [entryOf?, hindent, splitKey?_append hkey, hquoted]

theorem entryOf?_entryLine {e : Text × Text} (h : IsKey e.1.toList) (indent : Nat) :
    entryOf? indent (entryLine indent e) = some (joinedEntry e) :=
  entryOf?_eq_some.mpr ⟨_, toList_entryLine indent e, h, quoted?_encode e.2⟩

theorem unbroken_entryLine_iff {indent : Nat} {e : Text × Text} :
    Unbroken (entryLine indent e).toList ↔ Unbroken e.1.toList := by
  have hindent : Unbroken (List.replicate indent (.char ' ')) := by
    intro c hc
    rw [List.eq_of_mem_replicate hc]
    rfl
  have hvalue : Unbroken ((Json.encode e.2).toList.map .char) := Json.unbroken_encode e.2
  rw [toList_entryLine, unbroken_append, unbroken_append, unbroken_cons, unbroken_cons]
  simp [hindent, hvalue, Text.isLineEnd]

theorem entryLine_ne_empty (indent : Nat) (e : Text × Text) : entryLine indent e ≠ "" := by
  intro h
  have hlist := toList_entryLine indent e
  rw [h] at hlist
  simp at hlist

/-! ### All lines -/

theorem lines_envText_iff {p : Plan} {indent : Nat} :
    Text.lines (p.envText indent) = p.envLines indent ↔ ∀ e ∈ p.env, Unbroken e.1.toList := by
  have hne : ∀ line ∈ p.envLines indent, line ≠ "" := by
    intro line hline
    obtain ⟨e, -, rfl⟩ := List.mem_map.mp hline
    exact entryLine_ne_empty indent e
  rw [envText, Text.lines_joinLines_iff hne, envLines_eq, List.forall_mem_map]
  simp only [unbroken_entryLine_iff]

/-- Plain names come back with their values, all but the pairs. -/
theorem readEnv?_envText {p : Plan} {indent : Nat} (h : ∀ e ∈ p.env, IsPlain e.1) :
    readEnv? indent (p.envText indent) = some (p.env.map joinedEntry) := by
  have hlines : Text.lines (p.envText indent) = p.envLines indent := by
    rw [lines_envText_iff]
    intro e he
    exact (h e he).1
  rw [readEnv?, mapM_eq_some_iff, hlines, envLines_eq, List.map_map, List.map_map]
  apply List.map_congr_left
  intro e he
  exact entryOf?_entryLine (h e he).2 indent

/-- **The text of an environment reads back** exactly if all names are plain and no value
    has a pair. -/
theorem readEnv?_envText_iff {p : Plan} {indent : Nat} :
    readEnv? indent (p.envText indent) = some p.env
      ↔ (∀ e ∈ p.env, IsPlain e.1) ∧ ∀ e ∈ p.env, ¬ Json.HasPair e.2.toList := by
  have hjoined : p.env.map joinedEntry = p.env ↔ ∀ e ∈ p.env, ¬ Json.HasPair e.2.toList := by
    rw [Json.map_eq_self_iff]
    refine forall₂_congr fun e _ => ?_
    rw [← Json.joinPairs_eq_self_iff, joinedEntry, Prod.ext_iff, eq_self_iff_true, true_and,
      ← Text.toList_inj]
  constructor
  · intro h
    -- whatever is read as a key is plain, so no name that is not can come back
    have hplain : ∀ e ∈ p.env, IsPlain e.1 := by
      intro e he
      rw [readEnv?, mapM_eq_some_iff] at h
      obtain ⟨line, hline, hread⟩ := List.mem_map.mp (h ▸ List.mem_map_of_mem he)
      have hunbroken := Text.unbroken_of_mem_lines hline
      obtain ⟨value, htext, hkey, -⟩ := entryOf?_eq_some.mp hread
      rw [htext, unbroken_append, unbroken_append] at hunbroken
      exact ⟨hunbroken.2.1, hkey⟩
    rw [readEnv?_envText hplain, Option.some.injEq, hjoined] at h
    exact ⟨hplain, h⟩
  · rintro ⟨hplain, hpairs⟩
    rw [readEnv?_envText hplain, hjoined.mpr hpairs]

/-! ### The author's names -/

/-- The author sets a variable under a name: a text stands in the environment under a key
    that displays so. -/
def IsAuthored (m : Mapping) (name : Text) : Prop :=
  ∃ es vars k v, m.value "safe-outputs" = .map es ∧ Mapping.value es "env" = .map vars
    ∧ (k, Data.text v) ∈ vars ∧ k.display = name

theorem isAuthored_iff {m : Mapping} {name : Text} :
    IsAuthored m name ↔ ∃ b ∈ (Block.extract m).block, ∃ e ∈ b.env, e.1 = name := by
  rw [IsAuthored, Block.extract]
  cases m.value "safe-outputs" with
  | map es =>
    simp only [Option.mem_def, Option.some.injEq, exists_eq_left']
    rw [Block.ofMapping, Data.exists_mem_textMap_iff]
    simp
  | _ => simp

theorem exists_mem_env_iff {trial : Bool} {b : Block} {name : Text} :
    (∃ e ∈ (ofBlock trial b).env, e.1 = name)
      ↔ (∃ s : Signal, s.name = name ∧ s.value? trial b ≠ none) ∨ ∃ e ∈ b.env, e.1 = name := by
  have hsent : (∃ e ∈ Signal.all.flatMap (Signal.entry trial b), e.1 = name)
      ↔ ∃ s : Signal, s.name = name ∧ s.value? trial b ≠ none := by
    constructor
    · rintro ⟨e, he, rfl⟩
      obtain ⟨s, hname, hvalue⟩ := mem_entries.mp he
      exact ⟨s, hname, by simp [hvalue]⟩
    · rintro ⟨s, rfl, hvalue⟩
      obtain ⟨v, hv⟩ := Option.ne_none_iff_exists'.mp hvalue
      exact ⟨(s.name, v), mem_entries.mpr ⟨s, rfl, hv⟩, rfl⟩
  rw [env_ofBlock, ← hsent]
  exact Assoc.exists_mem_insertAll_iff id

theorem forall_names_iff {P : Text → Prop} (hsignals : ∀ s : Signal, P s.name) (trial : Bool)
    (m : Mapping) : (∀ e ∈ (compile trial (Block.extract m).block).env, P e.1)
      ↔ ∀ name, IsAuthored m name → P name := by
  simp only [isAuthored_iff]
  cases (Block.extract m).block with
  | none => simp [compile]
  | some b =>
    show (∀ e ∈ (ofBlock trial b).env, P e.1) ↔ _
    constructor
    · intro h name hname
      obtain ⟨b', hb, hentry⟩ := hname
      obtain rfl := Option.some.inj hb
      obtain ⟨e, he, rfl⟩ := exists_mem_env_iff.mpr (.inr hentry)
      exact h e he
    · intro h e he
      rcases exists_mem_env_iff.mp ⟨e, he, rfl⟩ with ⟨s, hname, -⟩ | hentry
      · rw [← hname]
        exact hsignals s
      · exact h e.1 ⟨b, rfl, hentry⟩

/-- A capital or an underscore, or one of the signs between them. -/
def isSignalChar (c : CodePoint) : Bool := 'A'.toNat ≤ c.toNat && c.toNat ≤ '_'.toNat

theorem isPlain_of_all {name : Text} (h : name.toList.all isSignalChar = true) :
    IsPlain name := by
  have hcode : ∀ c ∈ name.toList, 'A'.toNat ≤ c.toNat ∧ c.toNat ≤ '_'.toNat := by
    intro c hc
    simpa [isSignalChar] using List.all_eq_true.mp h c hc
  constructor
  · intro c hc
    obtain ⟨hlow, hhigh⟩ := hcode c hc
    cases c with
    | surrogate n => rfl
    | char c =>
      apply Text.isLineEnd_of_printable
      · exact Nat.le_trans (by decide) hlow
      · exact Nat.lt_of_le_of_lt hhigh (by decide)
  · intro hsplit
    have hcolon := hcode (.char ':') (hsplit.subset List.mem_cons_self)
    exact absurd hcolon.1 (by decide)

theorem isPlain_name (s : Signal) : IsPlain s.name := by
  cases s
  all_goals exact isPlain_of_all (by decide +kernel)

/-- When the lines of a plan for an environment can be read. -/
structure EnvReadsBack (m : Mapping) (p : Plan) (indent : Nat) : Prop where
  /-- Every entry comes back, in order and with its value, if the author's names are plain
      and no value has a pair, and only then. -/
  entries : readEnv? indent (p.envText indent) = some p.env
    ↔ (∀ name, IsAuthored m name → IsPlain name) ∧ ∀ e ∈ p.env, ¬ Json.HasPair e.2.toList
  /-- Under plain names every entry comes back, and of its value all but the pairs. -/
  joined : (∀ name, IsAuthored m name → IsPlain name) →
    readEnv? indent (p.envText indent) = some (p.env.map joinedEntry)
  /-- A line is added or split by a name only. -/
  lines : Text.lines (p.envText indent) = p.envLines indent
    ↔ ∀ name, IsAuthored m name → Unbroken name.toList

/-- The plan of a frontmatter's safe outputs, if they compile to one. -/
def ofFrontmatter (trial : Bool) (m : Mapping) : Check Plan := do
  build trial (← Block.read m).block

theorem eq_compile_of_ofFrontmatter {trial : Bool} {m : Mapping} {p : Plan}
    (h : (ofFrontmatter trial m).outcome = .ok p) : p = compile trial (Block.extract m).block := by
  have houtcome : (ofFrontmatter trial m).outcome
      = Check.guarded _ (compile trial (Block.extract m).block) :=
    Check.outcome_bind_guarded (Block.read_outcome m) (Check.outcome_guard _ _)
  exact (Check.guarded_eq_ok (houtcome.symm.trans h)).2.symm

/-- **The lines for an environment read back** exactly if the author's names are plain and
    no value has a pair. -/
theorem ofFrontmatter_envReadsBack {trial : Bool} {m : Mapping} {p : Plan}
    (h : (ofFrontmatter trial m).outcome = .ok p) (indent : Nat) : EnvReadsBack m p indent := by
  obtain rfl := eq_compile_of_ofFrontmatter h
  have hnames := forall_names_iff isPlain_name trial m
  constructor
  · rw [readEnv?_envText_iff, hnames]
  · exact fun hplain => readEnv?_envText (hnames.mpr hplain)
  · rw [lines_envText_iff]
    have hsignals : ∀ s : Signal, Unbroken s.name.toList := fun s => (isPlain_name s).1
    exact forall_names_iff (P := fun name => Unbroken name.toList) hsignals trial m

/-- A value with line ends, quotes and a character beyond the basic plane. -/
def quotedValues : Mapping :=
  [(.text "safe-outputs",
    .map [(.text "env", .map [(.text "A", .text "1\nB: \"2\" 😀"), (.text "C", .text "")])])]

theorem ofFrontmatter_envReadsBack_quoted :
    ∃ p, (ofFrontmatter false quotedValues).outcome = .ok p
      ∧ p.env = ([("A", "1\nB: \"2\" 😀"), ("C", "")] : Fields Text)
      ∧ EnvReadsBack quotedValues p 2 :=
  ⟨_, rfl, by decide +kernel, ofFrontmatter_envReadsBack rfl 2⟩

/-- A name that closes its own line and opens one of a signal. -/
def forgedName : Text := "SAFE: \"1\"\n  GH_AW_SAFE_OUTPUTS_STAGED"

def forgedNames : Mapping :=
  [(.text "safe-outputs", .map [(.text "env", .map [(.text forgedName, .text "true")])])]

/-- One variable is set, but two are read, and one of them is a signal. -/
theorem ofFrontmatter_forgedLine :
    IsAuthored forgedNames forgedName
      ∧ ∃ p, (ofFrontmatter false forgedNames).outcome = .ok p
        ∧ p.env = ([(forgedName, "true")] : Fields Text) ∧ p.staged = false
        ∧ readEnv? 2 (p.envText 2)
          = some ([("SAFE", "1"), (stagedVariable, "true")] : Fields Text) := by
  refine ⟨⟨_, _, _, _, rfl, rfl, List.mem_singleton_self _, rfl⟩, _, rfl, ?_, ?_, ?_⟩
  all_goals decide +kernel

end SafeOutput.Plan

end WorkflowPolicy
