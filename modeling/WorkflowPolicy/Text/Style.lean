/-
  WorkflowPolicy/Text/Style.lean
  ==============================
  **Terminal styles.**  An escape character and a bracket make a terminal change its
  state: parameters follow, then marks, and one last character ends the sequence.
  Printed texts carry no such sequences of the data they show.
-/

namespace WorkflowPolicy.Text

/-- The characters that can be parameters of a sequence. -/
def isStyleParameter (c : Char) : Bool := decide ('0' ≤ c ∧ c ≤ '?')

/-- The marks that can stand behind the parameters. -/
def isStyleMark (c : Char) : Bool := decide (' ' ≤ c ∧ c ≤ '/')

def isStyleEnd (c : Char) : Bool := decide ('@' ≤ c ∧ c ≤ '~')

/-- What follows a sequence after its bracket, if the sequence is complete. -/
def afterStyle? (cs : List Char) : Option (List Char) :=
  match (cs.dropWhile isStyleParameter).dropWhile isStyleMark with
  | c :: rest => if isStyleEnd c then some rest else none
  | [] => none

theorem afterStyle?_length {cs rest : List Char} (h : afterStyle? cs = some rest) :
    rest.length < cs.length := by
  unfold afterStyle? at h
  have hs : ((cs.dropWhile isStyleParameter).dropWhile isStyleMark).length ≤ cs.length :=
    Nat.le_trans (List.dropWhile_sublist isStyleMark).length_le
      (List.dropWhile_sublist isStyleParameter).length_le
  split at h
  · rename_i c tail hd
    rw [hd] at hs
    split at h
    · cases h
      simp only [List.length_cons] at hs
      omega
    · exact absurd h (by simp)
  · exact absurd h (by simp)

def plainChars : List Char → List Char
  | '\x1b' :: '[' :: rest =>
    match _h : afterStyle? rest with
    | some tail => plainChars tail
    | none => '\x1b' :: '[' :: plainChars rest
  | c :: rest => c :: plainChars rest
  | [] => []
termination_by cs => cs.length
decreasing_by
  · have := afterStyle?_length _h
    simp only [List.length_cons]
    omega
  · simp only [List.length_cons]
    omega
  · simp only [List.length_cons]
    omega

def plain (s : String) : String := String.ofList (plainChars s.toList)

end WorkflowPolicy.Text
