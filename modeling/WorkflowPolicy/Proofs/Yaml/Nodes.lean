/-
  WorkflowPolicy/Proofs/Yaml/Nodes.lean
  =====================================
  **What the nodes of a document stand for.**  A node stands for a value if its parts stand
  for the parts of the value (`MeansAt`).  The parts of a node are numbered after it, so new
  nodes change nothing about those that are there (`Grown`).
-/
import WorkflowPolicy.Assoc
import WorkflowPolicy.Yaml.Node
import WorkflowPolicy.Yaml.Scalar

namespace WorkflowPolicy.Yaml

variable {nodes more : Nodes} {val val' : Nat → Data} {id : Nat}

/-! ### What nodes stand for -/

/-- A node stands for its value, if its parts stand for theirs. -/
inductive MeansAt (nodes : Nodes) (val : Nat → Data) (id : Nat) : Prop
  | scalar {tag : Tag} {s : Text} (hnode : nodes[id]? = some (.scalar tag s))
      (hvalue : Scalar.value tag s = .ok (val id))
  | list {ids : List Nat} (hnode : nodes[id]? = some (.list .list ids))
      (hparts : ∀ i ∈ ids, id < i ∧ i < nodes.size) (hvalue : val id = .list (ids.map val))
  | map {es : List (Nat × Nat)} (hnode : nodes[id]? = some (.map .map es))
      (hkeys : ∀ e ∈ es, id < e.1 ∧ e.1 < nodes.size ∧ ∃ s, val e.1 = .text s)
      (hparts : ∀ e ∈ es, id < e.2 ∧ e.2 < nodes.size)
      (hdistinct : Assoc.Distinct Data.keyForm (es.map fun e => (val e.1, val e.2)))
      (hvalue : val id = .map (es.map fun e => (val e.1, val e.2)))

/-- What a node stands for depends on the nodes from there on alone. -/
theorem MeansAt.mono (h : MeansAt nodes val id) (hid : id < nodes.size)
    (hsize : nodes.size ≤ more.size)
    (hsame : ∀ i, id ≤ i → i < nodes.size → more[i]? = nodes[i]?)
    (hval : ∀ i, id ≤ i → i < nodes.size → val' i = val i) : MeansAt more val' id := by
  have hnode := hsame id (Nat.le_refl id) hid
  have hown := hval id (Nat.le_refl id) hid
  cases h with
  | scalar h hvalue => exact .scalar (hnode.trans h) (by rw [hown, hvalue])
  | @list ids h hparts hvalue =>
    refine .list (hnode.trans h)
      (fun i hi => ⟨(hparts i hi).1, Nat.lt_of_lt_of_le (hparts i hi).2 hsize⟩) ?_
    rw [hown, hvalue]
    refine congrArg Data.list (List.map_congr_left fun i hi => ?_)
    exact (hval i (Nat.le_of_lt (hparts i hi).1) (hparts i hi).2).symm
  | @map es h hkeys hparts hdistinct hvalue =>
    have hrows : (es.map fun e => (val' e.1, val' e.2)) = es.map fun e => (val e.1, val e.2) := by
      refine List.map_congr_left fun e he => ?_
      rw [hval e.1 (Nat.le_of_lt (hkeys e he).1) (hkeys e he).2.1,
        hval e.2 (Nat.le_of_lt (hparts e he).1) (hparts e he).2]
    refine .map (hnode.trans h) ?_ ?_ (by rwa [hrows]) (by rw [hown, hvalue, hrows])
    · intro e he
      obtain ⟨hlater, hlt, s, hs⟩ := hkeys e he
      refine ⟨hlater, Nat.lt_of_lt_of_le hlt hsize, s, ?_⟩
      rw [hval e.1 (Nat.le_of_lt hlater) hlt, hs]
    · exact fun e he => ⟨(hparts e he).1, Nat.lt_of_lt_of_le (hparts e he).2 hsize⟩

/-- New nodes stand for their values, and those that were there stay. -/
structure Grown (nodes more : Nodes) (val : Nat → Data) : Prop where
  size : nodes.size ≤ more.size
  same : ∀ id < nodes.size, more[id]? = nodes[id]?
  means : ∀ id, nodes.size ≤ id → id < more.size → MeansAt more val id

theorem Grown.refl (nodes : Nodes) (val : Nat → Data) : Grown nodes nodes val := by
  refine ⟨Nat.le_refl _, fun _ _ => rfl, ?_⟩
  intro id hold hnew
  omega

/-- The values of nodes up to a number, and of those from there on. -/
def joined (n : Nat) (val val' : Nat → Data) (id : Nat) : Data :=
  if id < n then val id else val' id

theorem joined_of_lt {n : Nat} (h : id < n) (val val' : Nat → Data) :
    joined n val val' id = val id := if_pos h

theorem joined_of_le {n : Nat} (h : n ≤ id) (val val' : Nat → Data) :
    joined n val val' id = val' id := if_neg (Nat.not_lt.mpr h)

theorem Grown.trans {a b c : Nodes} (h : Grown a b val) (h' : Grown b c val') :
    Grown a c (joined b.size val val') := by
  refine ⟨Nat.le_trans h.size h'.size, ?_, ?_⟩
  · intro id hid
    rw [h'.same id (Nat.lt_of_lt_of_le hid h.size), h.same id hid]
  · intro id hold hnew
    by_cases hid : id < b.size
    · exact (h.means id hold hid).mono hid h'.size (fun i _ hi => h'.same i hi)
        fun i _ hi => joined_of_lt hi val val'
    · have hlater := Nat.le_of_not_lt hid
      exact (h'.means id hlater hnew).mono hnew (Nat.le_refl _) (fun _ _ _ => rfl)
        fun i hi _ => joined_of_le (Nat.le_trans hlater hi) val val'

/-- A node that was reserved gets its parts, which are the nodes behind it. -/
theorem Grown.finish {a b : Nodes} (h : Grown (a.push Node.empty) b val) {n : Node} {d : Data}
    (hmeans : MeansAt (b.setIfInBounds a.size n) (joined (a.size + 1) (fun _ => d) val) a.size) :
    Grown a (b.setIfInBounds a.size n) (joined (a.size + 1) (fun _ => d) val) := by
  have hsize := h.size
  rw [Array.size_push] at hsize
  refine ⟨?_, ?_, ?_⟩
  · rw [Array.size_setIfInBounds]
    omega
  · intro id hid
    have hne : a.size ≠ id := Nat.ne_of_gt hid
    rw [Array.getElem?_setIfInBounds_ne hne, h.same id (by rw [Array.size_push]; omega),
      Array.getElem?_push_lt hid, Array.getElem?_eq_getElem hid]
  · intro id hold hnew
    rw [Array.size_setIfInBounds] at hnew
    by_cases hid : id = a.size
    · exact hid ▸ hmeans
    · have hlater : a.size + 1 ≤ id := by omega
      refine (h.means id (by rw [Array.size_push]; exact hlater) hnew).mono hnew
        (by simp) ?_ fun i hi _ => joined_of_le (by omega) _ _
      intro i hi _
      rw [Array.getElem?_setIfInBounds_ne (by omega)]

end WorkflowPolicy.Yaml
