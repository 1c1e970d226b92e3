/-
  WorkflowPolicy/Text/LetterCase.lean
  ===================================
  **Small letters and capitalized words.**  A character has a small form and a
  title form, each of one or more characters.  The Greek capital sigma alone
  depends on its place: its small form at the end of a word differs.
-/
import WorkflowPolicy.Text.Blank
import WorkflowPolicy.Text.CaseTable

namespace WorkflowPolicy.Text

/-! ### Single characters -/

def CaseRun.contains (r : CaseRun) (n : Nat) : Bool :=
  decide (r.first ≤ n) && decide (n ≤ r.last) && (n - r.first) % r.step == 0

/-- The form of a character by a table of runs and one of expansions. -/
def mapped (runs : List CaseRun) (expansions : List (Nat × List Nat)) (c : CodePoint) :
    List CodePoint :=
  match expansions.lookup c.toNat with
  | some cs => cs.map CodePoint.ofNat
  | none =>
    match runs.find? (·.contains c.toNat) with
    | some r => [CodePoint.ofNat ((c.toNat : Int) + r.distance).toNat]
    | none => [c]

def isCased (c : CodePoint) : Bool := inRanges casedRanges c.toNat

def isCaseIgnorable (c : CodePoint) : Bool := inRanges caseIgnorableRanges c.toNat

/-! ### Words -/

/-- Whether the first character that counts in a stretch of text is a letter. -/
def startsCased (cs : List CodePoint) : Bool :=
  match cs.dropWhile isCaseIgnorable with
  | [] => false
  | c :: _ => isCased c

/-- The small form of a character between the text before it, newest first, and
    the text after it. -/
def lowerBetween (before : List CodePoint) (c : CodePoint) (after : List CodePoint) :
    List CodePoint :=
  if c = '\u03a3' then
    if startsCased before && !startsCased after then ['\u03c2'] else ['\u03c3']
  else mapped lowerRuns lowerExpansions c

/-- The small form of a text that follows `before`. -/
def lowerAfter (before : List CodePoint) : List CodePoint → List CodePoint
  | [] => []
  | c :: after => lowerBetween before c after ++ lowerAfter (c :: before) after

def lower (s : Text) : Text := ⟨lowerAfter [] s.toList⟩

/-- The title form of the first character, the small form of the others. -/
def capitalized : List CodePoint → List CodePoint
  | [] => []
  | c :: rest => mapped titleRuns titleExpansions c ++ lowerAfter [c] rest

/-! ### Names -/

/-- A name in parts joined by underscores, written in one word: every part but
    the first is capitalized. -/
def camelCase (name : Text) : Text :=
  match name.toList.splitOn (.char '_') with
  | [] => .empty
  | head :: rest => ⟨head ++ rest.flatMap capitalized⟩

example : camelCase "footer_install" = "footerInstall" := by decide +kernel

end WorkflowPolicy.Text
