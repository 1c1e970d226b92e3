/-
  WorkflowPolicy/Assoc.lean
  =========================
  **Mappings that remember their order.**  A mapping is the list of its entries
  in the order in which their keys came first.  Writing a key that is present
  replaces its value in place; writing a new one appends.

  Two keys are the same when a *form* sends them to the same value.  For text
  keys the form is the identity; for keys of arbitrary data it is
  `Data.keyForm`, under which `true`, `1` and `1.0` are one key.
-/

namespace WorkflowPolicy.Assoc

variable {κ ν φ : Type} [DecidableEq φ] (form : κ → φ)

def get? (k : κ) : List (κ × ν) → Option ν
  | [] => none
  | (l, v) :: rest => if form l = form k then some v else get? k rest

/-- Write a value under a key: in place if the key is present, else at the end. -/
def insert (k : κ) (v : ν) : List (κ × ν) → List (κ × ν)
  | [] => [(k, v)]
  | (l, w) :: rest => if form l = form k then (l, v) :: rest else (l, w) :: insert k v rest

def erase (k : κ) : List (κ × ν) → List (κ × ν)
  | [] => []
  | (l, w) :: rest => if form l = form k then rest else (l, w) :: erase k rest

def contains (k : κ) (m : List (κ × ν)) : Bool := (get? form k m).isSome

def insertAll (m entries : List (κ × ν)) : List (κ × ν) :=
  entries.foldl (fun m e => insert form e.1 e.2 m) m

def ofList (entries : List (κ × ν)) : List (κ × ν) := insertAll form [] entries

def Distinct (m : List (κ × ν)) : Prop := (m.map fun e => form e.1).Nodup

/-! ### Reading what was written -/

@[simp] theorem get?_nil (k : κ) : get? form k ([] : List (κ × ν)) = none := rfl

theorem get?_cons (k l : κ) (v : ν) (m : List (κ × ν)) :
    get? form k ((l, v) :: m) = if form l = form k then some v else get? form k m := rfl

theorem get?_insert (k l : κ) (v : ν) (m : List (κ × ν)) :
    get? form l (insert form k v m) = if form k = form l then some v else get? form l m := by
  induction m with
  | nil => simp [insert, get?]
  | cons e m ih =>
    obtain ⟨j, w⟩ := e
    by_cases hjk : form j = form k
    · by_cases hkl : form k = form l
      · simp [insert, get?, hjk, hkl]
      · have : form j ≠ form l := fun h => hkl (hjk ▸ h)
        simp [insert, get?, hjk, hkl]
    · by_cases hjl : form j = form l
      · have hkl : ¬ form k = form l := fun h => hjk (hjl.trans h.symm)
        have hlk : ¬ form l = form k := fun h => hkl h.symm
        simp [insert, get?, hjl, hkl, hlk]
      · simp [insert, get?, hjk, hjl, ih]

theorem get?_insert_self (k : κ) (v : ν) (m : List (κ × ν)) :
    get? form k (insert form k v m) = some v := by simp [get?_insert]

theorem get?_insert_of_ne {k l : κ} (h : form k ≠ form l) (v : ν) (m : List (κ × ν)) :
    get? form l (insert form k v m) = get? form l m := by simp [get?_insert, h]

theorem get?_append (k : κ) (m n : List (κ × ν)) :
    get? form k (m ++ n) = (get? form k m).or (get? form k n) := by
  induction m with
  | nil => simp
  | cons e m ih =>
    obtain ⟨l, v⟩ := e
    by_cases h : form l = form k <;> simp [get?, h, ih]

theorem get?_erase_of_ne {k l : κ} (h : form k ≠ form l) (m : List (κ × ν)) :
    get? form l (erase form k m) = get? form l m := by
  induction m with
  | nil => rfl
  | cons e m ih =>
    obtain ⟨j, w⟩ := e
    by_cases hjk : form j = form k
    · have : form j ≠ form l := fun hjl => h (hjk ▸ hjl)
      simp [erase, get?, hjk, h]
    · have hlk : ¬ form l = form k := fun h' => h h'.symm
      by_cases hjl : form j = form l <;> simp [erase, get?, hjk, hlk, hjl, ih]

theorem get?_eq_none_iff (k : κ) (m : List (κ × ν)) :
    get? form k m = none ↔ ∀ e ∈ m, form e.1 ≠ form k := by
  induction m with
  | nil => simp
  | cons e m ih =>
    obtain ⟨l, v⟩ := e
    by_cases h : form l = form k <;> simp [get?, h, ih]

/-! ### Order -/

theorem insert_of_get?_eq_none {k : κ} {m : List (κ × ν)} (h : get? form k m = none) (v : ν) :
    insert form k v m = m ++ [(k, v)] := by
  induction m with
  | nil => rfl
  | cons e m ih =>
    obtain ⟨l, w⟩ := e
    by_cases hl : form l = form k
    · simp [get?, hl] at h
    · simp only [get?, hl, if_false] at h
      simp [insert, hl, ih h]

/-- Distinct entries written into an empty mapping are that mapping. -/
theorem ofList_of_distinct {m : List (κ × ν)} (h : Distinct form m) : ofList form m = m := by
  -- more generally, entries behind others that were written before
  suffices ∀ (m n : List (κ × ν)), Distinct form (n ++ m) → insertAll form n m = n ++ m by
    simpa [ofList] using this m [] (by simpa using h)
  intro m
  induction m with
  | nil => intro n _; simp [insertAll]
  | cons e m ih =>
    intro n hn
    obtain ⟨k, v⟩ := e
    have hk : get? form k n = none := by
      rw [get?_eq_none_iff]
      intro e he heq
      simp only [Distinct, List.map_append, List.map_cons] at hn
      have := (List.nodup_append.mp hn).2.2 (form e.1)
        (List.mem_map.mpr ⟨e, he, rfl⟩) (form k) (by simp)
      exact this heq
    have := ih (n ++ [(k, v)]) (by simpa using hn)
    simpa [insertAll, insert_of_get?_eq_none form hk v] using this

end WorkflowPolicy.Assoc
