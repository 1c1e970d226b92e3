/-
  WorkflowPolicy/Proofs/Yaml/Storable.lean
  ========================================
  **Data that is written, and its tokens.**  Data is `Storable` if it consists of nulls,
  booleans, integers, texts, lists and mappings whose keys are single words.  Such data is
  written in block style, and the tokens of what is written do not depend on the layout
  (`dataTokens`): where lines are broken or texts are quoted makes no difference, and a
  block is closed by a token of its own.

  An integer is read again up to as many digits as may be written, so the storable ones
  have no more.
-/
import WorkflowPolicy.Proofs.Assoc
import WorkflowPolicy.Proofs.Yaml.Integer
import WorkflowPolicy.Yaml.Token

namespace WorkflowPolicy.Yaml

/-! ### Data -/

/-- Values without items. -/
inductive Simple : Data → Prop
  | null : Simple .null
  | bool (b : Bool) : Simple (.bool b)
  | int {n : Int} (h : Decimal.isWritable n = true) : Simple (.int n)
  | text (s : Text) : Simple (.text s)

/-- Characters of a text that stands without quotes. -/
structure IsPlain (cs : List Char) : Prop where
  tag : Tag.ofPlain cs = .text
  plain : canBePlain cs = true

instance (cs : List Char) : Decidable (IsPlain cs) :=
  decidable_of_iff (Tag.ofPlain cs = .text ∧ canBePlain cs = true)
    ⟨fun h => ⟨h.1, h.2⟩, fun h => ⟨h.1, h.2⟩⟩

/-- Whether a text stands without quotes. -/
def standsPlain (s : Text) : Bool := s.chars?.any fun cs => decide (IsPlain cs)

@[simp] theorem standsPlain_ofChars (cs : List Char) :
    standsPlain (.ofChars cs) = decide (IsPlain cs) := by
  rw [standsPlain, Text.chars?_ofChars, Option.any_some]

/-- The characters of a single word that stands on the line of its value. -/
structure IsWord (cs : List Char) : Prop extends IsPlain cs where
  oneWord : ' ' ∉ cs
  short : tagWidth (.text (.ofChars cs)) + cs.length < keyWidth

instance (cs : List Char) : Decidable (IsWord cs) :=
  decidable_of_iff
    (IsPlain cs ∧ ' ' ∉ cs ∧ tagWidth (.text (.ofChars cs)) + cs.length < keyWidth)
    ⟨fun h => ⟨h.1, h.2.1, h.2.2⟩, fun h => ⟨h.1, h.2, h.3⟩⟩

/-- A key that is a single word. -/
def IsWordKey (s : Text) : Prop := ∃ cs, s = .ofChars cs ∧ IsWord cs

instance (s : Text) : Decidable (IsWordKey s) :=
  decidable_of_iff (∃ cs ∈ s.chars?, IsWord cs)
    (exists_congr fun _ => and_congr_left fun _ => Text.chars?_eq_some)

/-- Data of at most `n` levels. -/
inductive Storable : Nat → Data → Prop
  | simple {n : Nat} {d : Data} (h : Simple d) : Storable n d
  | list {n : Nat} {xs : List Data} (h : ∀ x ∈ xs, Storable n x) : Storable (n + 1) (.list xs)
  | map {n : Nat} {es : Fields Data} (hkeys : ∀ e ∈ es, IsWordKey e.1)
      (hdistinct : Assoc.Distinct id es) (h : ∀ e ∈ es, Storable n e.2) :
      Storable (n + 1) (.ofFields es)

/-! ### Ways to write a value -/

/-- The characters of a value and the token that they are read as. -/
inductive Written (p : Place) : List Char → Token → Prop
  | plain {cs : List Char} (h : PlainScalar.Plain cs) :
      Written p (folded none none p cs) (.scalar (.ofChars cs) true)
  | single {cs : List Char} (h : canBeSingleQuoted cs = true) :
      Written p (singleQuoted p cs) (.scalar (.ofChars cs) false)
  | double (s : Text) : Written p (doubleQuoted p s) (.scalar s false)

theorem written_word {cs : List Char} (h : PlainScalar.Plain cs) (hblank : ' ' ∉ cs)
    (p : Place) : Written p cs (.scalar (.ofChars cs) true) := by
  have hfolded := Written.plain (p := p) h
  rwa [h.folded_oneWord hblank] at hfolded

theorem written_chars (cs : List Char) (p : Place) :
    Written p (textChars p (.ofChars cs)) (.scalar (.ofChars cs) (decide (IsPlain cs))) := by
  rw [textChars, Text.chars?_ofChars]
  by_cases hplain : IsPlain cs
  · have hquotes : quotesFor p.inKey cs = .none := if_pos ⟨hplain.tag, hplain.plain⟩
    rw [decide_eq_true hplain]
    simp only [hquotes]
    exact .plain (PlainScalar.plain_of_canBePlain hplain.plain)
  · have hnot : ¬ (Tag.ofPlain cs = .text ∧ canBePlain cs = true) := fun h => hplain ⟨h.1, h.2⟩
    rw [decide_eq_false hplain]
    simp only [quotesFor, if_neg hnot]
    by_cases hsingle : (canBeSingleQuoted cs && !(p.inKey && cs.any (isBreak ·))) = true
    · rw [if_pos hsingle]
      exact .single (Bool.and_eq_true _ _ ▸ hsingle).1
    · rw [if_neg hsingle]
      exact .double _

theorem written_text (s : Text) (p : Place) :
    Written p (textChars p s) (.scalar s (standsPlain s)) := by
  cases hs : s.chars? with
  | some cs =>
    rw [Text.chars?_eq_some.mp hs, standsPlain_ofChars]
    exact written_chars cs p
  | none =>
    -- halves of surrogate pairs have escapes only
    have hquoted : textChars p s = doubleQuoted p s := by rw [textChars, hs]
    have hplain : standsPlain s = false := by rw [standsPlain, hs, Option.any_none]
    rw [hquoted, hplain]
    exact .double s

/-! ### Tokens -/

def simpleToken : Data → Token
  | .text s => .scalar s (standsPlain s)
  | d => .scalar (word d) true

mutual

/-- The tokens of data; the items of a list are `loose` behind a key, where they are no
    block of their own. -/
def dataTokens (loose : Bool) : Data → List Token
  | .list xs =>
    if xs.isEmpty then [.listStart, .listEnd]
    else if loose then itemTokens xs
    else .blockListStart :: (itemTokens xs ++ [.blockEnd])
  | .map es =>
    if es.isEmpty then [.mapStart, .mapEnd]
    else .blockMapStart :: (entryTokens es ++ [.blockEnd])
  | d => [simpleToken d]

def itemTokens : List Data → List Token
  | [] => []
  | x :: xs => .item :: (dataTokens false x ++ itemTokens xs)

def entryTokens : List (Data × Data) → List Token
  | [] => []
  | (k, v) :: es => .key :: simpleToken k :: .value :: (dataTokens true v ++ entryTokens es)

end

theorem written_simple {d : Data} (h : Simple d) (p : Place) :
    Written p (scalarChars p d) (simpleToken d) := by
  have hnamed : ∀ s ∈ ["null", "true", "false"], canBePlain s.toList = true ∧ ' ' ∉ s.toList := by
    decide
  have hword : ∀ s ∈ ["null", "true", "false"],
      Written p s.toList (.scalar (.ofString s) true) := by
    intro s hs
    obtain ⟨hplain, hblank⟩ := hnamed s hs
    exact written_word (PlainScalar.plain_of_canBePlain hplain) hblank p
  cases h with
  | null => exact hword "null" (by decide)
  | bool b =>
    cases b with
    | false => exact hword "false" (by decide)
    | true => exact hword "true" (by decide)
  | @int n => exact written_word (plain_ofInt n) (blank_not_mem_ofInt n) p
  | text s => exact written_text s p

theorem dataTokens_simple {d : Data} (h : Simple d) (loose : Bool) :
    dataTokens loose d = [simpleToken d] := by
  cases h <;> rfl

end WorkflowPolicy.Yaml
