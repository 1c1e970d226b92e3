/-
  WorkflowPolicy/Yaml/Token.lean
  ==============================
  **Tokens of a YAML text.**  A token is a mark, a scalar or a property of a node.
  Blocks, which are nested by columns alone, have tokens for their start and end, so
  that the grammar over tokens needs no columns.

  This module reads the tokens that stand for themselves: names of anchors, tags and
  directives.
-/
import WorkflowPolicy.Text.Escape
import WorkflowPolicy.Text.Integer
import WorkflowPolicy.Yaml.Cursor
import WorkflowPolicy.Yaml.Fault

namespace WorkflowPolicy.Yaml

open WorkflowPolicy.Text

/-- A tag as it is written: a handle that a directive may define, and what follows
    it. -/
structure WrittenTag where
  handle : Option String
  suffix : String
deriving DecidableEq, Repr

inductive Directive where
  | version (major minor : Nat)
  | tagHandle (handle start : String)
  | other
deriving DecidableEq, Repr

inductive Token where
  | directive (d : Directive)
  | documentStart
  | documentEnd
  | blockListStart
  | blockMapStart
  | blockEnd
  | listStart
  | listEnd
  | mapStart
  | mapEnd
  /-- The dash before an item of a block. -/
  | item
  | comma
  | key
  | value
  | alias (name : String)
  | anchor (name : String)
  | tag (t : WrittenTag)
  | scalar (text : Text) (plain : Bool)
  /-- What stands for the rest of a text that cannot be read. -/
  | unread (f : Fault)
deriving DecidableEq, Repr

namespace Token

/-- Why the first of some tokens cannot stand there: it is another one than there should
    be, or the text goes wrong. -/
def unexpected : List Token → Fault
  | .unread f :: _ => f
  | _ => .malformed

/-! ### Names -/

def isNameChar (c : Char) : Bool :=
  c.isAlphanum || c == '-' || c == '_'

/-- The characters that may follow the name of an anchor, besides gaps. -/
def anchorEnds : List Char := ['?', ':', ',', ']', '\x7d', '%', '@', '\x60']

/-- The name of an anchor or alias, after its mark. -/
def nameAt? (c : Cursor) : Option (String × Cursor) :=
  let (name, c) := c.span isNameChar
  if name.isEmpty then none
  else if endsWord c.rest || c.peek?.any anchorEnds.contains then some (String.ofList name, c)
  else none

/-! ### Tags -/

def uriMarks : List Char :=
  ['-', ';', '/', '?', ':', '@', '&', '=', '+', '$', ',', '_', '.', '!', '~', '*', '\'', '(',
   ')', '[', ']']

/-- The bytes of the escapes from here on; each is a percent sign and two
    hexadecimal digits. -/
def escapedBytes? : Nat → List Char → Option (List UInt8)
  | 0, _ => some []
  | steps + 1, '%' :: a :: b :: rest => do
    let n ← hexNumber? [a, b]
    let bytes ← escapedBytes? steps rest
    return UInt8.ofNat n :: bytes
  | _ + 1, '%' :: _ => none
  | _ + 1, _ => some []

/-- The characters of a tag from here on, with its escapes read as one text per
    run. -/
def uriChars? : Nat → Cursor → Option (List Char × Cursor)
  | 0, _ => none
  | steps + 1, c =>
    match c.peek? with
    | some '%' => do
      let bytes ← escapedBytes? c.rest.length c.rest
      let text ← String.fromUTF8? (ByteArray.mk bytes.toArray)
      let (cs, c) ← uriChars? steps (c.skip (3 * bytes.length))
      return (text.toList ++ cs, c)
    | some x =>
      if x.isAlphanum || uriMarks.contains x then do
        let (cs, c) ← uriChars? steps c.next
        return (x :: cs, c)
      else some ([], c)
    | none => some ([], c)

def uriAt? (c : Cursor) : Option (String × Cursor) := do
  let (cs, c) ← uriChars? (c.rest.length + 1) c
  if cs.isEmpty then none else return (String.ofList cs, c)

/-- A handle between exclamation marks, or a single exclamation mark. -/
def handleAt? (c : Cursor) : Option (String × Cursor) :=
  if c.peek? == some '!' then
    let (name, c') := c.next.span isNameChar
    match c'.peek? with
    | some '!' => some (String.ofList ('!' :: name ++ ['!']), c'.next)
    | some ' ' => if name.isEmpty then some ("!", c') else none
    | _ => none
  else none

/-- Whether another exclamation mark stands before the next gap. -/
def hasHandle (rest : List Char) : Bool :=
  (rest.takeWhile fun x => !(x == ' ' || isLineBreak x)).contains '!'

/-- A tag in angle brackets, with its full name. -/
def fullTagAt? (c : Cursor) : Option (WrittenTag × Cursor) := do
  let (uri, c) ← uriAt? (c.skip 2)
  if c.peek? == some '>' then return (⟨none, uri⟩, c.next) else none

def shortTagAt? (c : Cursor) : Option (WrittenTag × Cursor) := do
  let (handle, c) ← if hasHandle (c.rest.drop 1) then handleAt? c else some ("!", c.next)
  let (suffix, c) ← uriAt? c
  return (⟨some handle, suffix⟩, c)

/-- The tag whose exclamation mark stands here; a mark that stands alone is a tag
    too. -/
def tagAt? (c : Cursor) : Option (WrittenTag × Cursor) := do
  let rest := c.rest.drop 1
  let (t, c) ←
    if rest.head? == some '<' then fullTagAt? c
    else if endsWord rest then some (⟨none, "!"⟩, c.next)
    else shortTagAt? c
  if endsField c.rest then return (t, c) else none

/-! ### Directives -/

def numberAt? (c : Cursor) : Option (Nat × Cursor) := do
  let (digits, c) := c.span isAsciiDigit
  return (← digitsValue? asciiDigit? digits, c)

def skipSpaces (c : Cursor) : Cursor := c.skipWhile (· == ' ')

def versionAt? (c : Cursor) : Option (Directive × Cursor) := do
  let (major, c) ← numberAt? (skipSpaces c)
  if c.peek? != some '.' then none
  let (minor, c) ← numberAt? c.next
  if endsField c.rest then return (.version major minor, c) else none

def tagHandleAt? (c : Cursor) : Option (Directive × Cursor) := do
  let (handle, c) ← handleAt? (skipSpaces c)
  if c.peek? != some ' ' then none
  let (start, c) ← uriAt? (skipSpaces c)
  if endsField c.rest then return (.tagHandle handle start, c) else none

/-- The directive whose percent sign stands here, with its whole line. -/
def directiveAt? (c : Cursor) : Option (Directive × Cursor) := do
  let (name, c) := c.next.span isNameChar
  if name.isEmpty || !endsField c.rest then none
  let (d, c) ←
    match String.ofList name with
    | "YAML" => versionAt? c
    | "TAG" => tagHandleAt? c
    | _ => some (.other, c.skipWhile (!isLineBreak ·))
  return (d, ← c.restOfLine?)

end Token

end WorkflowPolicy.Yaml
