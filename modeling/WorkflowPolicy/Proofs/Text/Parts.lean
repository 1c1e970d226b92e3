/-
  WorkflowPolicy/Proofs/Text/Parts.lean
  =====================================
  **Splitting what was joined.**  Splitting joined texts gives the parts of each of them,
  one after the other (`splitText_intercalate`).  A part never has the separator in it, so
  the texts themselves come back exactly if none of them has (`flatMap_splitText_eq_self_iff`).
-/
import WorkflowPolicy.Text.Parts

namespace WorkflowPolicy.Text

variable {α : Type} [DecidableEq α] {separator : α}

/-! ### Rows -/

theorem parts_append_cons (cs ds : List α) :
    parts separator (cs ++ separator :: ds) = parts separator cs ++ parts separator ds := by
  induction cs with
  | nil => simp [parts]
  | cons c rest ih =>
    rw [List.cons_append, parts, parts, ih]
    by_cases hc : (c == separator) = true
    · rw [if_pos hc, if_pos hc, List.cons_append]
    · rw [if_neg hc, if_neg hc]
      cases h : parts separator rest with
      | nil => exact absurd h (parts_ne_nil separator rest)
      | cons p ps => rfl

theorem parts_intercalate {ls : List (List α)} (h : ls ≠ []) :
    parts separator ([separator].intercalate ls) = ls.flatMap (parts separator) := by
  induction ls with
  | nil => exact absurd rfl h
  | cons l ls ih =>
    cases ls with
    | nil => simp
    | cons k ks =>
      rw [List.intercalate_cons_cons, List.append_assoc, List.singleton_append, parts_append_cons,
        ih (List.cons_ne_nil k ks)]
      rfl

theorem parts_of_notMem {cs : List α} (h : separator ∉ cs) : parts separator cs = [cs] := by
  induction cs with
  | nil => rfl
  | cons c rest ih =>
    rw [List.mem_cons, not_or] at h
    have hc : ¬ (c == separator) = true := by simpa using Ne.symm h.1
    rw [parts, if_neg hc, ih h.2]

theorem notMem_of_mem_parts {cs p : List α} (h : p ∈ parts separator cs) : separator ∉ p := by
  induction cs generalizing p with
  | nil =>
    rw [parts, List.mem_singleton] at h
    simp [h]
  | cons c rest ih =>
    rw [parts] at h
    by_cases hc : (c == separator) = true
    · rw [if_pos hc, List.mem_cons] at h
      rcases h with rfl | hmem
      · simp
      · exact ih hmem
    · rw [if_neg hc] at h
      cases hparts : parts separator rest with
      | nil => exact absurd hparts (parts_ne_nil separator rest)
      | cons q qs =>
        rw [hparts] at h ih
        rcases List.mem_cons.mp h with rfl | hmem
        · have hq : separator ∉ q := ih List.mem_cons_self
          have hne : c ≠ separator := by simpa using hc
          simp [hq, hne.symm]
        · exact ih (List.mem_cons_of_mem q hmem)

/-! ### Texts -/

theorem splitText_intercalate {separator : CodePoint} {l : List Text} (h : l ≠ []) :
    splitText separator (intercalate ⟨[separator]⟩ l) = l.flatMap (splitText separator) := by
  have hmap : l.map toList ≠ [] := by simpa using h
  rw [splitText, intercalate, parts_intercalate hmap, List.flatMap_map, List.map_flatMap]
  rfl

theorem intercalate_splitText {separator : CodePoint} (s : Text) :
    intercalate ⟨[separator]⟩ (splitText separator s) = s := by
  have hparts : ((parts separator s.toList).map ofList).map toList = parts separator s.toList := by
    rw [List.map_map]
    exact List.map_id _
  rw [splitText, intercalate, hparts, intercalate_parts]

/-- Splitting gives joined texts back exactly if no text has the separator in it. -/
theorem flatMap_splitText_eq_self_iff {separator : CodePoint} {l : List Text} :
    l.flatMap (splitText separator) = l ↔ ∀ s ∈ l, separator ∉ s.toList := by
  constructor
  · intro h s hs
    rw [← h] at hs
    obtain ⟨t, -, hst⟩ := List.mem_flatMap.mp hs
    obtain ⟨p, hp, rfl⟩ := List.mem_map.mp hst
    exact notMem_of_mem_parts hp
  · intro h
    have hsingle : ∀ s ∈ l, splitText separator s = [s] := by
      intro s hs
      rw [splitText, parts_of_notMem (h s hs), List.map_singleton]
    rw [List.flatMap_def, List.map_congr_left hsingle, ← List.flatMap_def, List.flatMap_singleton']

end WorkflowPolicy.Text
