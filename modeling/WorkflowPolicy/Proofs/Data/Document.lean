/-
  WorkflowPolicy/Proofs/Data/Document.lean
  ========================================
  **The tree of a document without cycles.**  Collections have ranks, and what lies in a
  collection has a higher rank than it.  Then the order of a document puts every collection
  behind those that lie in it (`order_ready`), and its tree gives each of them the data that
  fits its parts (`data_eq`).  The whole lies in nothing, so another collection of its parts
  may stand in its place (`data_set_root`).
-/
import Mathlib.Data.Finset.Lattice.Fold
import Mathlib.Data.Finset.Range
import Mathlib.Data.List.Perm.Subperm
import WorkflowPolicy.Data.Document

namespace WorkflowPolicy.Document

variable {doc : Document} {value : Nat → Data} {rank : Nat → Nat} {id : Nat}

/-- Numbers of collections that lie in the document and rank above one of them. -/
structure Ranked (doc : Document) (rank : Nat → Nat) : Prop where
  bounded : ∀ id, ∀ l ∈ doc.links id, l < doc.size
  above : ∀ id, ∀ l ∈ doc.links id, rank id < rank l

theorem exists_get? (h : id < doc.size) : ∃ c, doc.get? id = some c :=
  ⟨_, Array.getElem?_eq_getElem h⟩

theorem links_of_get? {c : Collection} (h : doc.get? id = some c) : doc.links id = c.links := by
  rw [links, h]

/-- What lies in a collection of the list stands behind it. -/
inductive Ready (doc : Document) : List Nat → Prop
  | nil : Ready doc []
  | cons {id : Nat} {done : List Nat} (hid : id < doc.size) (h : ∀ l ∈ doc.links id, l ∈ done)
      (hdone : Ready doc done) : Ready doc (id :: done)

/-! ### Visits -/

/-- Collections are met while they are above the place of the visit, and from when they are
    complete. -/
structure Visiting (doc : Document) (above : List Nat) (v : Visits) : Prop where
  size : v.met.size = doc.size
  met : ∀ id < doc.size, v.met.getD id true = true ↔ id ∈ v.complete ∨ id ∈ above
  ready : Ready doc v.complete

theorem Visiting.enter {above : List Nat} {v : Visits} (h : Visiting doc above v)
    (hid : id < doc.size) :
    Visiting doc (id :: above) { v with met := v.met.setIfInBounds id true } := by
  refine ⟨by rw [Array.size_setIfInBounds, h.size], ?_, h.ready⟩
  intro i hi
  have hold := h.met i hi
  by_cases hsame : i = id
  · subst hsame
    have hset : (v.met.setIfInBounds i true).getD i true = true := by
      simp [Array.getD_eq_getD_getElem?, h.size, hi]
    simp [hset]
  · have hset : (v.met.setIfInBounds id true).getD i true = v.met.getD i true := by
      simp only [Array.getD_eq_getD_getElem?]
      rw [Array.getElem?_setIfInBounds_ne (Ne.symm hsame)]
    simp only [hset, hold, List.mem_cons, hsame, false_or]

theorem Visiting.leave {above : List Nat} {v : Visits} (h : Visiting doc (id :: above) v)
    (hid : id < doc.size) (hlinks : ∀ l ∈ doc.links id, l ∈ v.complete) :
    Visiting doc above { v with complete := id :: v.complete } := by
  refine ⟨h.size, ?_, .cons hid hlinks h.ready⟩
  intro i hi
  rw [h.met i hi, List.mem_cons, List.mem_cons, or_left_comm, or_assoc]

/-- A visit completes a collection, and whatever was complete stays so. -/
structure Visited (doc : Document) (above : List Nat) (v v' : Visits) (ids : List Nat) : Prop where
  visiting : Visiting doc above v'
  complete : ∀ id ∈ ids, id ∈ v'.complete
  mono : ∀ id ∈ v.complete, id ∈ v'.complete

/-- Collections are visited one after another, if each of them is. -/
theorem visited_foldl {above : List Nat} (step : Visits → Nat → Visits) (ids : List Nat)
    (hstep : ∀ v, Visiting doc above v → ∀ id ∈ ids, Visited doc above v (step v id) [id])
    (v : Visits) (h : Visiting doc above v) :
    Visited doc above v (ids.foldl step v) ids := by
  induction ids generalizing v with
  | nil => exact ⟨h, by simp, fun _ hid => hid⟩
  | cons id ids ih =>
    have hfirst := hstep v h id List.mem_cons_self
    have hrest := ih (fun v h i hi => hstep v h i (List.mem_cons_of_mem id hi)) _ hfirst.visiting
    refine ⟨hrest.visiting, ?_, fun i hi => hrest.mono i (hfirst.mono i hi)⟩
    intro i hi
    rcases List.mem_cons.mp hi with rfl | hi
    · exact hrest.mono i (hfirst.complete i List.mem_cons_self)
    · exact hrest.complete i hi

/-- Different numbers below a bound are no more than the bound. -/
theorem length_le_of_bounded {ids : List Nat} {n : Nat} (hnodup : ids.Nodup)
    (hbounded : ∀ i ∈ ids, i < n) : ids.length ≤ n := by
  have hsubset : ids ⊆ List.range n := fun i hi => List.mem_range.mpr (hbounded i hi)
  have hlength := (hnodup.subperm hsubset).length_le
  rwa [List.length_range] at hlength

theorem visited_visit (hranked : Ranked doc rank) :
    ∀ (steps : Nat) (above : List Nat) (v : Visits) (id : Nat), Visiting doc above v →
      id < doc.size → above.Nodup → (∀ a ∈ above, a < doc.size ∧ rank a < rank id) →
      doc.size < above.length + steps → Visited doc above v (doc.visit steps v id) [id] := by
  intro steps
  induction steps with
  | zero =>
    intro above v id _ _ hnodup habove hsteps
    -- no way inward is longer than there are collections
    have hlength := length_le_of_bounded hnodup fun a ha => (habove a ha).1
    omega
  | succ steps ih =>
    intro above v id h hid hnodup habove hsteps
    have hnew : id ∉ above := fun hmem => Nat.lt_irrefl _ (habove id hmem).2
    -- what was met and does not lie above is complete already
    by_cases hmet : v.met.getD id true = true
    · have hcomplete := ((h.met id hid).mp hmet).resolve_right hnew
      rw [visit, if_pos hmet]
      exact ⟨h, by simpa using hcomplete, fun _ hi => hi⟩
    · rw [visit, if_neg hmet]
      have hlinks := visited_foldl (doc.visit steps) (doc.links id) ?_ _ (h.enter hid)
      · refine ⟨hlinks.visiting.leave hid hlinks.complete, by simp, ?_⟩
        exact fun i hi => List.mem_cons_of_mem id (hlinks.mono i hi)
      · intro v hv l hl
        refine ih (id :: above) v l hv (hranked.bounded id l hl)
          (List.nodup_cons.mpr ⟨hnew, hnodup⟩) ?_ (by rw [List.length_cons]; omega)
        have hlater := hranked.above id l hl
        intro a ha
        rcases List.mem_cons.mp ha with rfl | ha
        · exact ⟨hid, hlater⟩
        · exact ⟨(habove a ha).1, Nat.lt_trans (habove a ha).2 hlater⟩

/-- Every collection comes behind those that lie in it, and the whole is one of them. -/
theorem order_ready (hranked : Ranked doc rank) (hroot : ∀ id ∈ doc.root.id?, id < doc.size) :
    Ready doc doc.order.reverse ∧ ∀ id ∈ doc.root.id?, id ∈ doc.order := by
  have hstart : Visiting doc [] { met := doc.noFlags } := by
    refine ⟨Array.size_replicate, ?_, .nil⟩
    intro id hid
    simp [noFlags, Array.getD_eq_getD_getElem?, hid]
  have hvisited := visited_foldl (doc.visit (doc.size + 1)) doc.root.id?.toList
    (fun v hv id hid => visited_visit hranked _ [] v id hv (hroot id (by simpa using hid))
      .nil (by simp) (by simp)) _ hstart
  refine ⟨by simpa [order] using hvisited.visiting.ready, ?_⟩
  intro id hid
  rw [order, List.mem_reverse]
  exact hvisited.complete id (by simpa using hid)

/-! ### Data -/

theorem toData_congr_part {look look' : Nat → Data} {p : Part}
    (h : ∀ l ∈ p.id?, look l = look' l) : p.toData look = p.toData look' := by
  cases p with
  | own d => rfl
  | shared id => exact h id rfl

/-- The data of a collection depends on that of what lies in it. -/
theorem toData_congr {look look' : Nat → Data} {c : Collection}
    (h : ∀ l ∈ c.links, look l = look' l) : c.toData look = c.toData look' := by
  have hpart : ∀ p ∈ c.parts, p.toData look = p.toData look' := fun p hp =>
    toData_congr_part fun l hl => h l (List.mem_filterMap.mpr ⟨p, hp, hl⟩)
  cases c with
  | list xs => exact congrArg Data.list (List.map_congr_left hpart)
  | map es =>
    refine congrArg Data.map (List.map_congr_left fun e he => ?_)
    rw [hpart e.2 (List.mem_map_of_mem he)]
  | set xs => rfl
  | pairs rows =>
    refine congrArg Data.list (List.map_congr_left fun r hr => ?_)
    rw [hpart r.1 (List.mem_flatMap.mpr ⟨r, hr, by simp⟩),
      hpart r.2 (List.mem_flatMap.mpr ⟨r, hr, by simp⟩)]

/-- The data of each collection fits its parts. -/
def Fits (doc : Document) (value : Nat → Data) : Prop :=
  ∀ id c, doc.get? id = some c → c.toData value = value id

/-- Collections behind those that lie in them get their data in one round. -/
theorem unfold_ready (hfits : Fits doc value) {done : List Nat} (h : Ready doc done)
    {table : Array Data} (hsize : table.size = doc.size) :
    (doc.unfold done.reverse table).size = doc.size
      ∧ ∀ id ∈ done, (doc.unfold done.reverse table).getD id .null = value id := by
  induction h with
  | nil => exact ⟨hsize, by simp⟩
  | @cons id done hid hlinks _ ih =>
    obtain ⟨hsize', hvalues⟩ := ih
    obtain ⟨c, hc⟩ := exists_get? hid
    have hown : doc.links id = c.links := links_of_get? hc
    have hdata : c.toData (fun l => (doc.unfold done.reverse table).getD l .null) = value id := by
      rw [← hfits id c hc]
      exact toData_congr fun l hl => hvalues l (hlinks l (hown ▸ hl))
    -- one step more writes the value of `id` and nothing else
    have hstep : doc.unfold (id :: done).reverse table
        = (doc.unfold done.reverse table).setIfInBounds id (value id) := by
      rw [List.reverse_cons, unfold, List.foldl_append]
      simp only [List.foldl_cons, List.foldl_nil, hc]
      exact congrArg _ hdata
    rw [hstep]
    refine ⟨by rw [Array.size_setIfInBounds, hsize'], ?_⟩
    intro i hi
    by_cases hsame : i = id
    · subst hsame
      simp [Array.getD_eq_getD_getElem?, hsize', hid]
    · rw [Array.getD_eq_getD_getElem?, Array.getElem?_setIfInBounds_ne (Ne.symm hsame),
        ← Array.getD_eq_getD_getElem?]
      exact hvalues i ((List.mem_cons.mp hi).resolve_left hsame)

theorem data_eq (hranked : Ranked doc rank) (hfits : Fits doc value)
    (hroot : ∀ id ∈ doc.root.id?, id < doc.size) : doc.data = doc.root.toData value := by
  obtain ⟨hready, hmem⟩ := order_ready hranked hroot
  have hround : ∀ table : Array Data, table.size = doc.size →
      (doc.unfold doc.order table).size = doc.size
        ∧ ∀ id ∈ doc.order, (doc.unfold doc.order table).getD id .null = value id := by
    intro table hsize
    have h := unfold_ready hfits hready hsize
    simpa only [List.reverse_reverse, List.mem_reverse] using h
  -- one round finds the data of every collection; further rounds find the same
  have hrounds : ∀ n, (Nat.repeat (doc.unfold doc.order) n
      (doc.collections.map Collection.cut)).size = doc.size := by
    intro n
    induction n with
    | zero => exact Array.size_map
    | succ n ih => exact (hround _ ih).1
  obtain ⟨n, hn⟩ : ∃ n, (if doc.isCyclic then depth else 1) = n + 1 := by
    cases doc.isCyclic
    · exact ⟨0, rfl⟩
    · exact ⟨7, rfl⟩
  rw [data, hn]
  exact toData_congr_part fun l hl => (hround _ (hrounds n)).2 l (hmem l hl)

/-! ### Documents without cycles -/

/-- No collection lies in itself, and the whole is one of the document if it is one. -/
def IsAcyclic (doc : Document) : Prop :=
  ∃ rank, Ranked doc rank ∧ ∀ id ∈ doc.root.id?, id < doc.size

/-- The data of a collection, as far as a number of steps inward goes. -/
def valueWithin (doc : Document) : Nat → Nat → Data
  | 0, _ => .null
  | steps + 1, id =>
    match doc.get? id with
    | some c => c.toData (valueWithin doc steps)
    | none => .null

theorem lt_size_of_get? {c : Collection} (h : doc.get? id = some c) : id < doc.size := by
  obtain ⟨hid, -⟩ := Array.getElem?_eq_some_iff.mp h
  exact hid

theorem lt_size_of_mem_links {l : Nat} (h : l ∈ doc.links id) : id < doc.size := by
  rw [links] at h
  split at h
  · rename_i hc
    exact lt_size_of_get? hc
  · cases h

theorem exists_bound (doc : Document) (rank : Nat → Nat) : ∃ n, ∀ id < doc.size, rank id < n := by
  refine ⟨(Finset.range doc.size).sup rank + 1, ?_⟩
  intro id hid
  exact Nat.lt_succ_of_le (Finset.le_sup (Finset.mem_range.mpr hid))

/-- Every way inward ends, so as many steps as there are ranks find all data. -/
theorem exists_fits (hranked : Ranked doc rank) : ∃ value, Fits doc value := by
  obtain ⟨n, hn⟩ := exists_bound doc rank
  -- no rank is beyond `n`, so more than `n` steps change nothing
  have hstable : ∀ steps, ∀ id < doc.size, n ≤ rank id + steps →
      doc.valueWithin (steps + 1) id = doc.valueWithin steps id := by
    intro steps
    induction steps with
    | zero =>
      intro id hid hsteps
      exact absurd (hn id hid) (by omega)
    | succ steps ih =>
      intro id hid hsteps
      obtain ⟨c, hc⟩ := exists_get? hid
      rw [valueWithin, valueWithin, hc]
      apply toData_congr
      intro l hl
      rw [← links_of_get? hc] at hl
      have habove := hranked.above id l hl
      exact ih l (hranked.bounded id l hl) (by omega)
  refine ⟨doc.valueWithin n, ?_⟩
  intro id c hc
  rw [← hstable n id (lt_size_of_get? hc) (by omega), valueWithin, hc]

/-- The data of a collection depends on the collections of higher ranks alone. -/
theorem fits_congr {doc' : Document} {value' : Nat → Data} {r : Nat} (hranked : Ranked doc rank)
    (hfits : Fits doc value) (hfits' : Fits doc' value')
    (hsame : ∀ id, r < rank id → doc'.get? id = doc.get? id) :
    ∀ id < doc.size, r < rank id → value' id = value id := by
  obtain ⟨n, hn⟩ := exists_bound doc rank
  -- from the highest rank down
  suffices ∀ steps, ∀ id < doc.size, r < rank id → n ≤ rank id + steps → value' id = value id by
    intro id hid hr
    exact this n id hid hr (by omega)
  intro steps
  induction steps with
  | zero =>
    intro id hid _ hsteps
    exact absurd (hn id hid) (by omega)
  | succ steps ih =>
    intro id hid hr hsteps
    obtain ⟨c, hc⟩ := exists_get? hid
    rw [← hfits id c hc, ← hfits' id c ((hsame id hr).trans hc)]
    apply toData_congr
    intro l hl
    rw [← links_of_get? hc] at hl
    have habove := hranked.above id l hl
    exact ih l (hranked.bounded id l hl) (by omega) (by omega)

/-! ### Another whole -/

theorem get?_set_self {c c' : Collection} (hc : doc.get? id = some c) :
    (doc.set id c').get? id = some c' := by
  rw [get?, set, Array.getElem?_setIfInBounds_self_of_lt (lt_size_of_get? hc)]

theorem get?_set_of_ne {i : Nat} (h : i ≠ id) (c : Collection) :
    (doc.set id c).get? i = doc.get? i :=
  Array.getElem?_setIfInBounds_ne (Ne.symm h)

theorem size_set (doc : Document) (id : Nat) (c : Collection) : (doc.set id c).size = doc.size :=
  Array.size_setIfInBounds

/-- A collection of no other parts lies as deep as the one that it replaces. -/
theorem Ranked.set {c c' : Collection} (h : Ranked doc rank) (hc : doc.get? id = some c)
    (hlinks : c'.links ⊆ c.links) : Ranked (doc.set id c') rank := by
  have hlinks' : ∀ i, (doc.set id c').links i ⊆ doc.links i := by
    intro i
    by_cases hi : i = id
    · subst hi
      rw [links_of_get? (get?_set_self hc), links_of_get? hc]
      exact hlinks
    · rw [links, links, get?_set_of_ne hi]
      exact List.Subset.refl _
  constructor
  · intro i l hl
    rw [size_set]
    exact h.bounded i l (hlinks' i hl)
  · intro i l hl
    exact h.above i l (hlinks' i hl)

theorem data_of_root (hranked : Ranked doc rank) (hfits : Fits doc value)
    (hroot : doc.root = .shared id) (hid : id < doc.size) : doc.data = value id := by
  rw [data_eq hranked hfits, hroot]
  · rfl
  · rw [hroot]
    rintro i ⟨⟩
    exact hid

/-- The whole may be exchanged for a collection of no other parts; what lies in it keeps its
    data. -/
theorem data_set_root {c c' : Collection} (h : doc.IsAcyclic) (hroot : doc.root = .shared id)
    (hc : doc.get? id = some c) (hlinks : c'.links ⊆ c.links) :
    ∃ value, doc.data = c.toData value ∧ (doc.set id c').data = c'.toData value := by
  obtain ⟨rank, hranked, -⟩ := h
  have hid := lt_size_of_get? hc
  have hranked' : Ranked (doc.set id c') rank := hranked.set hc hlinks
  obtain ⟨value, hfits⟩ := exists_fits hranked
  obtain ⟨value', hfits'⟩ := exists_fits hranked'
  refine ⟨value, ?_, ?_⟩
  · rw [data_of_root hranked hfits hroot hid, hfits id c hc]
  · have hid' : id < (doc.set id c').size := by rwa [size_set]
    rw [data_of_root hranked' hfits' hroot hid', ← hfits' id c' (get?_set_self hc)]
    apply toData_congr
    intro l hl
    have hmem : l ∈ doc.links id := by
      rw [links_of_get? hc]
      exact hlinks hl
    -- what lies in the whole ranks above it, and there both documents are the same
    apply fits_congr hranked hfits hfits' ?_ l (hranked.bounded id l hmem)
      (hranked.above id l hmem)
    intro i hi
    apply get?_set_of_ne
    rintro rfl
    exact Nat.lt_irrefl _ hi

end WorkflowPolicy.Document
