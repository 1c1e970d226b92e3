/-
  WorkflowPolicy/Proofs/Json/Sorted.lean
  ======================================
  **Sorting keys loses nothing.**  Two values agree when they differ in the order
  of keys only: lists agree item by item, and mappings have as many entries and
  agree under every key.  A value with its keys sorted is held by JSON when the value
  is, so text with sorted keys reads back, all but its pairs (`read_compactSorted`), and
  what is read agrees with the value exactly if it has none (`agrees_joined_iff`).
-/
import WorkflowPolicy.Proofs.Json.RoundTrip

namespace WorkflowPolicy

namespace Data

mutual

/-- Whether two values are equal but for the order of keys. -/
def agrees : Data → Data → Bool
  | .list xs, .list ys => agreesItems xs ys
  | .map es, .map fs => es.length == fs.length && agreesEntries es fs
  | a, b => same a b

def agreesItems : List Data → List Data → Bool
  | [], [] => true
  | x :: xs, y :: ys => agrees x y && agreesItems xs ys
  | _, _ => false

/-- Whether every entry has its counterpart under the same key. -/
def agreesEntries : List (Data × Data) → Mapping → Bool
  | [], _ => true
  | (k, v) :: es, fs =>
    (match fs.get? k with
      | some w => agrees v w
      | none => false) && agreesEntries es fs

end

theorem agreesItems_map_iff {α : Type} {xs : List α} {f g : α → Data} :
    agreesItems (xs.map f) (xs.map g) = true ↔ ∀ x ∈ xs, agrees (f x) (g x) = true := by
  induction xs with
  | nil => exact iff_of_true rfl nofun
  | cons x xs ih =>
    rw [List.map_cons, List.map_cons, agreesItems, Bool.and_eq_true, ih, List.forall_mem_cons]

theorem agreesEntries_iff {es : List (Data × Data)} {fs : Mapping} :
    agreesEntries es fs = true ↔ ∀ e ∈ es, ∃ w ∈ fs.get? e.1, agrees e.2 w = true := by
  induction es with
  | nil => exact iff_of_true rfl nofun
  | cons e es ih =>
    obtain ⟨k, v⟩ := e
    rw [agreesEntries, Bool.and_eq_true, ih, List.forall_mem_cons]
    refine and_congr_left fun _ => ?_
    cases fs.get? k <;> simp

end Data

namespace Json

/-! ### Sorted keys -/

theorem sortedItems_eq (xs : List Data) : sortedItems xs = xs.map sorted := by
  induction xs with
  | nil => rfl
  | cons x xs ih => rw [sortedItems, ih, List.map_cons]

theorem sortedEntries_eq (es : List (Data × Data)) :
    sortedEntries es = es.map fun e => (e.1, sorted e.2) := by
  induction es with
  | nil => rfl
  | cons e es ih =>
    obtain ⟨k, v⟩ := e
    rw [sortedEntries, ih, List.map_cons]

theorem sortEntries_perm (es : List (Data × Data)) :
    (sortEntries (sortedEntries es)).Perm (es.map fun e => (e.1, sorted e.2)) := by
  rw [sortEntries, sortedEntries_eq]
  exact List.mergeSort_perm _ _

theorem distinct_sortEntries {es : List (Data × Data)}
    (h : Assoc.Distinct Data.keyForm es) :
    Assoc.Distinct Data.keyForm (sortEntries (sortedEntries es)) := by
  have hmap : Assoc.Distinct Data.keyForm (es.map fun e => (e.1, sorted e.2)) := by
    rw [Assoc.Distinct, List.map_map]
    exact h
  exact hmap.perm Data.keyForm (sortEntries_perm es).symm

theorem held_sorted {d : Data} (h : Held d) : Held (sorted d) := by
  induction h with
  | null => exact .null
  | bool b => exact .bool b
  | int n => exact .int n
  | text s => exact .text s
  | list items ih =>
    rw [sorted, sortedItems_eq]
    refine .list ?_
    intro y hy
    obtain ⟨x, hx, rfl⟩ := List.mem_map.mp hy
    exact ih x hx
  | map keys values distinct ih =>
    rename_i es
    -- sorting moves the entries and brings in no others
    have horigin : ∀ f ∈ sortEntries (sortedEntries es), ∃ e ∈ es, (e.1, sorted e.2) = f :=
      fun f hf => List.mem_map.mp ((sortEntries_perm es).mem_iff.mp hf)
    rw [sorted]
    refine .map ?_ ?_ (distinct_sortEntries distinct)
    · intro f hf
      obtain ⟨e, he, rfl⟩ := horigin f hf
      exact keys e he
    · intro f hf
      obtain ⟨e, he, rfl⟩ := horigin f hf
      exact ih e he

/-- The entries of a sorted mapping, all but their pairs. -/
def readEntries (es : List (Data × Data)) : List (Data × Data) :=
  (sortEntries (sortedEntries es)).map fun e => (e.1, joined e.2)

theorem joined_sorted_map (es : List (Data × Data)) :
    joined (sorted (.map es)) = .map (readEntries es) := by
  rw [sorted, joined, joinedEntries_eq, readEntries]

theorem joined_sorted_list (xs : List Data) :
    joined (sorted (.list xs)) = .list (xs.map fun x => joined (sorted x)) := by
  rw [sorted, joined, sortedItems_eq, joinedItems_eq, List.map_map]
  rfl

theorem length_readEntries (es : List (Data × Data)) : (readEntries es).length = es.length := by
  rw [readEntries, List.length_map, (sortEntries_perm es).length_eq, List.length_map]

/-- Keys are distinct, so an entry is found wherever sorting puts it. -/
theorem get?_readEntries {es : List (Data × Data)} (h : Assoc.Distinct Data.keyForm es)
    {e : Data × Data} (he : e ∈ es) :
    Mapping.get? (readEntries es) e.1 = some (joined (sorted e.2)) := by
  have hmem : (e.1, sorted e.2) ∈ sortEntries (sortedEntries es) :=
    (sortEntries_perm es).mem_iff.mpr (List.mem_map.mpr ⟨e, he, rfl⟩)
  have hdistinct : Assoc.Distinct Data.keyForm (readEntries es) := by
    rw [readEntries, Assoc.Distinct, List.map_map]
    exact distinct_sortEntries h
  exact Assoc.get?_of_mem Data.keyForm hdistinct (List.mem_map.mpr ⟨_, hmem, rfl⟩)

theorem joined_agrees {d : Data} (h : Held d) : (joined d).agrees (joined (sorted d)) = true := by
  induction h with
  | null => rfl
  | bool b => exact (Data.same_iff _ _).mpr rfl
  | int n => exact (Data.same_iff _ _).mpr rfl
  | text s => exact (Data.same_iff _ _).mpr rfl
  | list items ih =>
    rw [joined_sorted_list, joined, joinedItems_eq, Data.agrees, Data.agreesItems_map_iff]
    exact ih
  | map keys values distinct ih =>
    rw [joined_sorted_map, joined, joinedEntries_eq, Data.agrees, length_readEntries,
      List.length_map, beq_self_eq_true, Bool.true_and, Data.agreesEntries_iff,
      List.forall_mem_map]
    intro e he
    have hget := get?_readEntries distinct he
    exact ⟨_, hget, ih e he⟩

/-- What is read agrees with the value exactly if no text of it has a pair. -/
theorem agrees_joined_iff {d : Data} (h : Held d) :
    d.agrees (joined (sorted d)) = true ↔ PairFree d := by
  induction h with
  | null => exact iff_of_true rfl nofun
  | bool b => exact iff_of_true ((Data.same_iff _ _).mpr rfl) nofun
  | int n => exact iff_of_true ((Data.same_iff _ _).mpr rfl) nofun
  | text s =>
    rw [← joined_eq_self_iff (.text s)]
    exact (Data.same_iff _ _).trans eq_comm
  | @list xs items ih =>
    have hitems : Data.agreesItems (xs.map id) (xs.map fun x => joined (sorted x)) = true
        ↔ ∀ x ∈ xs, x.agrees (joined (sorted x)) = true :=
      Data.agreesItems_map_iff
    rw [List.map_id] at hitems
    rw [joined_sorted_list, Data.agrees, hitems, pairFree_list]
    exact forall₂_congr ih
  | map keys values distinct ih =>
    rw [joined_sorted_map, Data.agrees, length_readEntries, beq_self_eq_true, Bool.true_and,
      Data.agreesEntries_iff, pairFree_map]
    refine forall₂_congr fun e he => ?_
    rw [get?_readEntries distinct he, ← ih e he]
    simp

theorem writable_sorted {d : Data} (h : Held d) (hw : Writable d) : Writable (sorted d) := by
  induction h with
  | null => exact hw
  | bool b => exact hw
  | int n => exact hw
  | text s => exact hw
  | list items ih =>
    rw [writable_list] at hw
    rw [sorted, sortedItems_eq, writable_list, List.forall_mem_map]
    exact fun x hx => ih x hx (hw x hx)
  | map keys values distinct ih =>
    rw [writable_map] at hw
    rw [sorted, writable_map]
    intro f hf
    obtain ⟨e, he, rfl⟩ := List.mem_map.mp ((sortEntries_perm _).mem_iff.mp hf)
    exact ⟨(hw e he).1, ih e he (hw e he).2⟩

/-- **Text with sorted keys reads back** as a value that agrees with the one written, all
    but its pairs. -/
theorem read_compactSorted {d : Data} (h : Held d) (hw : Writable d) :
    read (compactSorted d) = .ok (joined (sorted d)) :=
  read_compact (held_sorted h) (writable_sorted h hw)

end Json

end WorkflowPolicy
