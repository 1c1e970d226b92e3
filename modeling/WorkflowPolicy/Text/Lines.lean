/-
  WorkflowPolicy/Text/Lines.lean
  ==============================
  **Lines of a text.**  Eleven forms end a line: the line feed, the carriage
  return, the two together as one, the vertical tab, the form feed, the three
  information separators, the next-line control and the two Unicode separators.
  A last line needs no end, and an end at the very end opens no further line.
-/
import WorkflowPolicy.Text

namespace WorkflowPolicy.Text

def isLineEnd (c : CodePoint) : Bool :=
  c == '\n' || c == '\r' || c == '\x0b' || c == '\x0c' || c == '\x1c' || c == '\x1d'
    || c == '\x1e' || c == '\x85' || c == '\u2028' || c == '\u2029'

/-- The lines of a text, without their ends.  `open?` holds the characters of
    the line that has begun, newest first, or nothing between two lines. -/
def linesFrom : Option (List CodePoint) → List CodePoint → List (List CodePoint)
  | none, [] => []
  | some cs, [] => [cs.reverse]
  | started, '\r' :: '\n' :: rest => (started.getD []).reverse :: linesFrom none rest
  | started, c :: rest =>
    if isLineEnd c then (started.getD []).reverse :: linesFrom none rest
    else linesFrom (some (c :: started.getD [])) rest

def lines (s : Text) : List Text := (linesFrom none s.toList).map .ofList

/-- Lines put together again with line feeds between them. -/
def joinLines (ls : List Text) : Text := intercalate "\n" ls

/-- A text as it is read from a file: every carriage return, alone or before a
    line feed, becomes one line feed. -/
def unifyLineEnds : List Char → List Char
  | '\r' :: '\n' :: rest => '\n' :: unifyLineEnds rest
  | c :: rest => (if c == '\r' then '\n' else c) :: unifyLineEnds rest
  | [] => []

/-- A text as a terminal shows it: a carriage return before a line feed changes
    nothing. -/
def shortenLineEnds : List Char → List Char
  | '\r' :: '\n' :: rest => '\n' :: shortenLineEnds rest
  | c :: rest => c :: shortenLineEnds rest
  | [] => []

example : lines "a\r\nb\x0c\n" = (["a", "b", ""] : List Text) := by decide +kernel

end WorkflowPolicy.Text
