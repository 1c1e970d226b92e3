/-
  WorkflowPolicy/Text/Similarity.lean
  ===================================
  **How alike two words are.**  Two words are compared by their longest common
  block, and then by the blocks on both sides of it.  Their likeness is the share of
  characters that stand in common blocks; it is kept as an exact fraction.
-/

namespace WorkflowPolicy.Text

/-! ### Common blocks -/

/-- The length of the common beginning. -/
def commonStart : List Char → List Char → Nat
  | a :: as, b :: bs => if a = b then commonStart as bs + 1 else 0
  | _, _ => 0

/-- A block that starts at a place of each word. -/
structure CommonBlock where
  first : Nat
  second : Nat
  size : Nat
deriving DecidableEq, Repr

/-- The common blocks from every pair of places, in the order of the places. -/
def commonBlocks (as bs : List Char) : List CommonBlock :=
  (List.range as.length).flatMap fun i =>
    (List.range bs.length).map fun j => ⟨i, j, commonStart (as.drop i) (bs.drop j)⟩

def longestBlock (as bs : List Char) : CommonBlock :=
  (commonBlocks as bs).foldl (fun best b => if best.size < b.size then b else best) ⟨0, 0, 0⟩

/-- How many characters stand in common blocks.  What lies beside a block is shorter
    than the word, so fuel of the word's length suffices. -/
def matchedWithin : Nat → List Char → List Char → Nat
  | 0, _, _ => 0
  | fuel + 1, as, bs =>
    let b := longestBlock as bs
    if b.size = 0 then 0
    else
      matchedWithin fuel (as.take b.first) (bs.take b.second) + b.size
        + matchedWithin fuel (as.drop (b.first + b.size)) (bs.drop (b.second + b.size))

def matched (as bs : List Char) : Nat := matchedWithin as.length as bs

/-! ### Likeness -/

/-- A share of `common` characters among `total`. -/
structure Likeness where
  common : Nat
  total : Nat
deriving DecidableEq, Repr

def likeness (a b : String) : Likeness :=
  ⟨2 * matched a.toList b.toList, a.length + b.length⟩

def Likeness.exceeds (x y : Likeness) : Bool := decide (y.common * x.total < x.common * y.total)

/-- At least six tenths are in common. -/
def Likeness.isClose (x : Likeness) : Bool := decide (6 * x.total ≤ 10 * x.common)

/-- Whether a candidate comes before another one: the more alike first, and of equally
    alike ones the later in the alphabet. -/
def ranksBefore (x y : Likeness × String) : Bool :=
  x.1.exceeds y.1 || (!y.1.exceeds x.1 && !decide (x.2 < y.2))

/-- The candidates that are close to a word, at most three, the closest first. -/
def closeMatches (word : String) (candidates : List String) : List String :=
  let rated := candidates.map fun c => (likeness c word, c)
  (((rated.filter (·.1.isClose)).mergeSort ranksBefore).take 3).map (·.2)

example : likeness "--bount" "--count" = ⟨12, 14⟩ := by decide +kernel

end WorkflowPolicy.Text
