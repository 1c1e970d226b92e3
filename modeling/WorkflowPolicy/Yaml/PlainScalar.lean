/-
  WorkflowPolicy/Yaml/PlainScalar.lean
  ====================================
  **Scalars without quotes.**  Words with single or multiple blanks between them; a
  word ends where a key or a comment would start, and between brackets also at the
  marks that brackets use.  A scalar may go on over deeper lines, which are folded
  as in quotes.
-/
import WorkflowPolicy.Yaml.QuotedScalar

namespace WorkflowPolicy.Yaml.PlainScalar

/-! ### Starts and words -/

/-- The characters with which no plain scalar starts on its own. -/
def marks : List Char :=
  ['-', '?', ':', ',', '[', ']', '\x7b', '\x7d', '#', '&', '*', '!', '|', '>', '\'', '"', '%',
   '@', '\x60']

/-- The marks that end a word between brackets. -/
def bracketMarks : List Char := [',', '?', '[', ']', '\x7b', '\x7d']

/-- Whether a plain scalar starts here; `nested` says whether brackets are open. -/
def startsHere (nested : Bool) : List Char → Bool
  | [] => false
  | c :: rest =>
    (!isGap c && !marks.contains c)
      || (!endsWord rest && (c == '-' || (!nested && (c == '?' || c == ':'))))

/-- Whether a colon before the given characters ends a word. -/
def endsKey (nested : Bool) : List Char → Bool
  | [] => true
  | c :: _ => isGap c || (nested && [',', '[', ']', '\x7b', '\x7d'].contains c)

def wordAt (nested : Bool) : List Char → List Char
  | [] => []
  | c :: rest =>
    if isGap c || (c == ':' && endsKey nested rest) || (nested && bracketMarks.contains c) then []
    else c :: wordAt nested rest

/-! ### Gaps between words -/

/-- The breaks of the empty lines from here on; nothing if a document mark
    follows. -/
def emptyLines : Nat → Cursor → Option (List Char) × Cursor
  | 0, c => (some [], c)
  | steps + 1, c =>
    if isDocumentMark c.rest then (none, c)
    else
      let c := c.skipWhile (· == ' ')
      match c.lineBreak with
      | ([], c) => (some [], c)
      | (b, c) =>
        let (breaks, c) := emptyLines steps c
        (breaks.map (b ++ ·), c)

/-- What lies between two words. -/
structure Gap where
  text : List Char
  brokeLine : Bool
  after : Cursor

/-- The gap that starts here.  Tabs are no part of a gap. -/
def gapAt (c : Cursor) : Gap :=
  let (blanks, c) := c.span (· == ' ')
  match c.lineBreak with
  | ([], c) => ⟨blanks, false, c⟩
  | (b, c) =>
    let (breaks, c) := emptyLines (c.rest.length + 1) c
    ⟨(breaks.map (QuotedScalar.foldBreaks b)).getD [], true, c⟩

/-! ### Words put together -/

/-- A plain scalar, and whether a line was broken after its last word. -/
structure Body where
  text : List Char
  brokeLine : Bool
  after : Cursor

/-- Words from here on, after a gap.  A scalar goes on over lines that reach column
    `least`, and anywhere between brackets. -/
def wordsAt (nested : Bool) (least : Nat) : Nat → Gap → Body
  | 0, gap => ⟨[], gap.brokeLine, gap.after⟩
  | steps + 1, gap =>
    let word := wordAt nested gap.after.rest
    if word.isEmpty then ⟨[], gap.brokeLine, gap.after⟩
    else
      let gap' := gapAt (gap.after.skip word.length)
      if gap'.text.isEmpty || gap'.after.peek? == some '#'
          || (!nested && decide (gap'.after.column < least)) then
        ⟨gap.text ++ word, gap'.brokeLine, gap'.after⟩
      else
        let rest := wordsAt nested least steps gap'
        { rest with text := gap.text ++ word ++ rest.text }

def read (nested : Bool) (least : Nat) (c : Cursor) : Body :=
  wordsAt nested least (c.rest.length + 1) ⟨[], false, c⟩

end WorkflowPolicy.Yaml.PlainScalar
