/-
  WorkflowPolicy/Yaml/Token/Scanner.lean
  ======================================
  **From text to tokens.**  Two things are known only later than they are needed: a
  key is known by the colon behind it, and the end of a block by a line that is less
  deep.  The scanner therefore remembers, for every open bracket, where a key may
  have started, and the columns of the blocks that are open.

  A key must end on its line and within 1024 characters.  In a block a key that
  starts where the entries of the open mapping start cannot be anything else, so
  its colon is required.

  Whoever reads the tokens gets them one by one, and meets a fault of the text only
  behind the tokens that were handed over before it.
-/
import WorkflowPolicy.Yaml.BlockScalar
import WorkflowPolicy.Yaml.PlainScalar
import WorkflowPolicy.Yaml.Token

namespace WorkflowPolicy.Yaml

/-! ### State -/

/-- A place where a key may have started. -/
structure KeyStart where
  /-- The number of tokens before it. -/
  position : Nat
  required : Bool
  line : Nat
  column : Nat
  index : Nat
deriving DecidableEq, Repr

structure Scanner where
  cursor : Cursor
  tokens : List Token := []
  count : Nat := 0
  /-- The columns of the open blocks, innermost first. -/
  blocks : List Nat := []
  /-- Whether a key may start at the next token. -/
  keyAllowed : Bool := true
  /-- The key that may have started inside the innermost bracket. -/
  key : Option KeyStart := none
  /-- The same for the brackets around it, innermost first. -/
  outerKeys : List (Option KeyStart) := []

namespace Scanner

/-- The length within which a key must end. -/
def keyLength : Nat := 1024

def nested (s : Scanner) : Bool := !s.outerKeys.isEmpty

/-- The least column that belongs to the innermost block. -/
def depth (s : Scanner) : Nat :=
  match s.blocks with
  | [] => 0
  | b :: _ => b + 1

def push (s : Scanner) (t : Token) : Scanner :=
  { s with tokens := t :: s.tokens, count := s.count + 1 }

/-- Put a token before all but the first `n` tokens. -/
def insertAt (s : Scanner) (n : Nat) (t : Token) : Scanner :=
  let later := s.count - n
  { s with tokens := s.tokens.take later ++ t :: s.tokens.drop later, count := s.count + 1 }

/-! ### Blocks -/

/-- Close the blocks that are deeper than a column; between brackets there are
    none. -/
def closeBlocks (column : Nat) (s : Scanner) : Scanner :=
  if s.nested then s
  else
    let open' := s.blocks.dropWhile fun b => decide (column < b)
    let closed := s.blocks.length - open'.length
    { s with
      tokens := List.replicate closed .blockEnd ++ s.tokens
      count := s.count + closed
      blocks := open' }

def closeAllBlocks (s : Scanner) : Scanner :=
  if s.nested then s
  else
    { s with
      tokens := List.replicate s.blocks.length .blockEnd ++ s.tokens
      count := s.count + s.blocks.length
      blocks := [] }

/-! ### Keys that may have started -/

/-- A key that is not awaited any more; a required one may not be given up. -/
def giveUp : Option KeyStart → Except Fault (Option KeyStart)
  | some k => if k.required then .error .malformed else .ok none
  | none => .ok none

/-- Give up a key that has grown over its line or its length. -/
def review (c : Cursor) (key : Option KeyStart) : Except Fault (Option KeyStart) :=
  match key with
  | some k => if k.line ≠ c.line ∨ keyLength < c.index - k.index then giveUp key else .ok key
  | none => .ok none

def reviewKeys (s : Scanner) : Except Fault Scanner := do
  let key ← review s.cursor s.key
  let outerKeys ← s.outerKeys.mapM (review s.cursor)
  return { s with key := key, outerKeys := outerKeys }

def dropKey (s : Scanner) : Except Fault Scanner := do
  return { s with key := ← giveUp s.key }

/-- Remember that a key may start here. -/
def noteKey (s : Scanner) : Except Fault Scanner :=
  if s.keyAllowed then do
    let s ← s.dropKey
    return { s with
      key := some
        { position := s.count
          required := !s.nested && s.blocks.head? == some s.cursor.column
          line := s.cursor.line
          column := s.cursor.column
          index := s.cursor.index } }
  else .ok s

/-! ### Between tokens -/

/-- Skip blanks, comments and line breaks.  After a line break a key may start,
    outside of brackets. -/
def skipToToken : Nat → Scanner → Scanner
  | 0, s => s
  | steps + 1, s =>
    let c := s.cursor.skipWhile (· == ' ')
    let c := if c.peek? == some '#' then c.skipWhile (!isLineBreak ·) else c
    match c.lineBreak with
    | ([], c) => { s with cursor := c }
    | (_, c) => skipToToken steps { s with cursor := c, keyAllowed := s.keyAllowed || !s.nested }

/-! ### Marks -/

/-- A mark of `n` characters. -/
def mark (t : Token) (n : Nat) (s : Scanner) : Scanner :=
  { s with cursor := s.cursor.skip n }.push t

/-- A mark that ends all blocks. -/
def documentMark (t : Token) (s : Scanner) : Except Fault Scanner := do
  let s ← s.closeAllBlocks.dropKey
  return { s with keyAllowed := false }.mark t 3

def directive (s : Scanner) : Except Fault Scanner := do
  let s ← s.closeAllBlocks.dropKey
  let (d, c) ← expect (Token.directiveAt? s.cursor)
  return { s with keyAllowed := false, cursor := c }.push (.directive d)

def openBracket (t : Token) (s : Scanner) : Except Fault Scanner := do
  let s ← s.noteKey
  return { s with keyAllowed := true, key := none, outerKeys := s.key :: s.outerKeys }.mark t 1

def closeBracket (t : Token) (s : Scanner) : Except Fault Scanner := do
  let s ← s.dropKey
  match s.outerKeys with
  | [] => .error .malformed
  | k :: outer => return { s with keyAllowed := false, key := k, outerKeys := outer }.mark t 1

def comma (s : Scanner) : Except Fault Scanner := do
  let s ← s.dropKey
  return { s with keyAllowed := true }.mark .comma 1

/-- Open a block at a column, unless one is open there. -/
def openBlock (t : Token) (column : Nat) (s : Scanner) : Scanner :=
  if s.depth ≤ column then { s with blocks := column :: s.blocks }.push t else s

/-- Open a block for a mark that stands on its own; a key must be allowed there. -/
def openBlockHere (t : Token) (s : Scanner) : Except Fault Scanner :=
  if s.nested then .ok s
  else if s.keyAllowed then .ok (s.openBlock t s.cursor.column)
  else .error .malformed

def item (s : Scanner) : Except Fault Scanner := do
  let s ← s.openBlockHere .blockListStart
  let s ← s.dropKey
  return { s with keyAllowed := true }.mark .item 1

def key' (s : Scanner) : Except Fault Scanner := do
  let s ← s.openBlockHere .blockMapStart
  let s ← s.dropKey
  return { s with keyAllowed := !s.nested }.mark .key 1

/-- The colon of a key that started before, or of an empty one. -/
def value (s : Scanner) : Except Fault Scanner :=
  match s.key with
  | some k =>
    let s := { s with key := none }.insertAt k.position .key
    let s :=
      if !s.nested && decide (s.depth ≤ k.column) then
        { s with blocks := k.column :: s.blocks }.insertAt k.position .blockMapStart
      else s
    .ok ({ s with keyAllowed := false }.mark .value 1)
  | none => do
    let s ← s.openBlockHere .blockMapStart
    return { s with keyAllowed := !s.nested }.mark .value 1

/-! ### Properties and scalars -/

/-- A token with which a key may start, already read. -/
def leaf (read : Cursor → Except Fault (Token × Cursor)) (s : Scanner) :
    Except Fault Scanner := do
  let s ← s.noteKey
  let (t, c) ← read s.cursor
  return { s with keyAllowed := false, cursor := c }.push t

def anchorToken (make : String → Token) (c : Cursor) : Except Fault (Token × Cursor) := do
  let (name, c) ← expect (Token.nameAt? c.next)
  return (make name, c)

def tagToken (c : Cursor) : Except Fault (Token × Cursor) := do
  let (t, c) ← expect (Token.tagAt? c)
  return (.tag t, c)

def quotedToken (double : Bool) (c : Cursor) : Except Fault (Token × Cursor) := do
  let (s, c) ← QuotedScalar.read double c.next
  return (.scalar s false, c)

def blockScalar (folded : Bool) (s : Scanner) : Except Fault Scanner := do
  let s ← s.dropKey
  let (cs, c) ← expect (BlockScalar.read? folded s.depth s.cursor.next)
  return { s with keyAllowed := true, cursor := c }.push (.scalar (.ofChars cs) false)

def plainScalar (s : Scanner) : Except Fault Scanner := do
  let s ← s.noteKey
  let body := PlainScalar.read s.nested s.depth s.cursor
  return { s with keyAllowed := body.brokeLine, cursor := body.after }.push
    (.scalar (.ofChars body.text) true)

/-! ### Steps -/

/-- Read the token that starts with `x`. -/
def token (x : Char) (rest : List Char) (s : Scanner) : Except Fault Scanner :=
  let lineStart := s.cursor.column == 0
  let alone := s.nested || endsWord rest
  if x = '%' ∧ lineStart then s.directive
  else if x = '-' ∧ lineStart ∧ isDocumentMark (x :: rest) then s.documentMark .documentStart
  else if x = '.' ∧ lineStart ∧ isDocumentMark (x :: rest) then s.documentMark .documentEnd
  else if x = '[' then s.openBracket .listStart
  else if x = '\x7b' then s.openBracket .mapStart
  else if x = ']' then s.closeBracket .listEnd
  else if x = '\x7d' then s.closeBracket .mapEnd
  else if x = ',' then s.comma
  else if x = '-' ∧ endsWord rest then s.item
  else if x = '?' ∧ alone then s.key'
  else if x = ':' ∧ alone then s.value
  else if x = '*' then s.leaf (anchorToken .alias)
  else if x = '&' then s.leaf (anchorToken .anchor)
  else if x = '!' then s.leaf tagToken
  else if x = '|' ∧ !s.nested then s.blockScalar false
  else if x = '>' ∧ !s.nested then s.blockScalar true
  else if x = '\'' then s.leaf (quotedToken false)
  else if x = '"' then s.leaf (quotedToken true)
  else if PlainScalar.startsHere s.nested (x :: rest) then s.plainScalar
  else .error .malformed

/-- Go to the next token, and close the blocks that it is not part of. -/
def approach (steps : Nat) (s : Scanner) : Except Fault Scanner := do
  let s ← (s.skipToToken steps).reviewKeys
  return s.closeBlocks s.cursor.column

/-- Read all tokens.  Every step reads a character, so one step more than there are
    characters suffices; the same number bounds the lines without a token. -/
def run : Nat → Scanner → Except Fault (List Token)
  | 0, _ => .error .malformed
  | steps + 1, s => do
    let s ← s.approach (steps + 1)
    match s.cursor.rest with
    | [] =>
      let s ← s.closeAllBlocks.dropKey
      return s.tokens.reverse
    | x :: rest =>
      let s ← s.token x rest
      run steps s

/-! ### Texts that go wrong -/

/-- A key that is still awaited where the text goes on. -/
def awaited (c : Cursor) (key : Option KeyStart) : Option KeyStart :=
  (review c key).toOption.getD key

/-- The tokens that are handed over before the next one is read.  Where a key may have
    started, the tokens from there on have to wait. -/
def settled (s : Scanner) : List Token :=
  let waiting := (s.key :: s.outerKeys).filterMap (awaited s.cursor)
  s.tokens.reverse.take ((waiting.map (·.position)).foldl min s.count)

/-- The tokens that are handed over before the text goes wrong. -/
def handedOver : Nat → Scanner → List Token
  | 0, s => s.settled
  | steps + 1, s =>
    let behind : Except Fault Scanner := do
      let next ← s.approach (steps + 1)
      match next.cursor.rest with
      | [] => throw .malformed
      | x :: rest => next.token x rest
    match behind with
    | .ok next => handedOver steps next
    | .error _ => s.settled

end Scanner

/-! ### Texts -/

/-- The tokens of a text, up to its fault if it has one; a mark of its byte order is
    skipped. -/
def Token.ofChars (cs : List Char) : List Token :=
  let start : Cursor := { rest := cs }
  let start := if start.peek? == some byteOrderMark then start.next else start
  match Scanner.run (cs.length + 1) { cursor := start } with
  | .ok ts => ts
  | .error f => Scanner.handedOver (cs.length + 1) { cursor := start } ++ [.unread f]

end WorkflowPolicy.Yaml
