/-
  WorkflowPolicy/Proofs/Assoc.lean
  ================================
  **What a mapping holds.**  A mapping without repeated keys is determined by its
  entries: looking up the key of an entry finds that entry (`get?_of_mem`).

  Writing entries one after the other keeps keys distinct, and the last entry
  written under a key is the one that is found (`get?_insertAll`).  Mappings with
  text keys become mappings of data without changing what is found in them.
-/
import Mathlib.Data.List.Nodup
import WorkflowPolicy.Data

namespace WorkflowPolicy.Assoc

variable {κ ν φ : Type} [DecidableEq φ] (form : κ → φ)

/-! ### Entries and look-ups -/

theorem mem_of_get? {k : κ} {v : ν} {m : List (κ × ν)} (h : get? form k m = some v) :
    ∃ l, form l = form k ∧ (l, v) ∈ m := by
  induction m with
  | nil => simp at h
  | cons e m ih =>
    obtain ⟨l, w⟩ := e
    rw [get?_cons] at h
    split at h
    · rename_i hl
      cases h
      exact ⟨l, hl, by simp⟩
    · obtain ⟨j, hj, hmem⟩ := ih h
      exact ⟨j, hj, List.mem_cons_of_mem _ hmem⟩

theorem distinct_cons {k : κ} {v : ν} {m : List (κ × ν)} :
    Distinct form ((k, v) :: m) ↔ get? form k m = none ∧ Distinct form m := by
  rw [Distinct, List.map_cons, List.nodup_cons, List.mem_map, get?_eq_none_iff, Distinct]
  refine and_congr_left fun _ => ?_
  constructor
  · intro h e he hform
    exact h ⟨e, he, hform⟩
  · rintro h ⟨e, he, hform⟩
    exact h e he hform

/-- Looking up the key of an entry finds the entry, when no key occurs twice. -/
theorem get?_of_mem {k : κ} {v : ν} {m : List (κ × ν)} (hm : Distinct form m)
    (he : (k, v) ∈ m) : get? form k m = some v := by
  induction m with
  | nil => cases he
  | cons e m ih =>
    obtain ⟨l, w⟩ := e
    obtain ⟨hnone, hrest⟩ := (distinct_cons form).mp hm
    rw [get?_cons]
    rcases List.mem_cons.mp he with heq | hmem
    · cases heq
      simp
    · have hne : form k ≠ form l := (get?_eq_none_iff form l m).mp hnone (k, v) hmem
      rw [if_neg hne.symm]
      exact ih hrest hmem

theorem get?_congr {k l : κ} (h : form k = form l) (m : List (κ × ν)) :
    get? form k m = get? form l m := by
  induction m with
  | nil => rfl
  | cons e m ih =>
    obtain ⟨j, w⟩ := e
    rw [get?_cons, get?_cons, ih, h]

omit [DecidableEq φ] in
theorem Distinct.perm {m n : List (κ × ν)} (h : Distinct form m) (hp : m.Perm n) :
    Distinct form n :=
  (hp.map _).nodup_iff.mp h

/-- The order of the entries does not show, when no key occurs twice. -/
theorem get?_perm {m n : List (κ × ν)} (hm : Distinct form m) (hp : m.Perm n) (k : κ) :
    get? form k m = get? form k n := by
  cases hget : get? form k m with
  | none =>
    rw [get?_eq_none_iff] at hget
    symm
    rw [get?_eq_none_iff]
    intro e he
    exact hget e (hp.mem_iff.mpr he)
  | some v =>
    obtain ⟨l, hl, hmem⟩ := mem_of_get? form hget
    have hfound : get? form l n = some v :=
      get?_of_mem form (hm.perm form hp) (hp.mem_iff.mp hmem)
    rw [get?_congr form hl.symm, hfound]

theorem get?_middle {k l : κ} (h : form l ≠ form k) (v : ν) (m n : List (κ × ν)) :
    get? form k (m ++ (l, v) :: n) = get? form k (m ++ n) := by
  rw [get?_append, get?_append, get?_cons, if_neg h]

/-! ### Writing several entries -/

theorem distinct_insert {m : List (κ × ν)} (h : Distinct form m) (k : κ) (v : ν) :
    Distinct form (insert form k v m) := by
  induction m with
  | nil => simp [Distinct, insert]
  | cons e m ih =>
    obtain ⟨l, w⟩ := e
    rw [insert]
    split
    · simpa [Distinct] using h
    · rename_i hl
      obtain ⟨hnone, hrest⟩ := (distinct_cons form).mp h
      rw [distinct_cons, get?_insert_of_ne form (Ne.symm hl)]
      exact ⟨hnone, ih hrest⟩

theorem distinct_insertAll {m : List (κ × ν)} (h : Distinct form m) (es : List (κ × ν)) :
    Distinct form (insertAll form m es) := by
  induction es generalizing m with
  | nil => exact h
  | cons e es ih => exact ih (distinct_insert form h e.1 e.2)

theorem distinct_ofList (es : List (κ × ν)) : Distinct form (ofList form es) :=
  distinct_insertAll form (by simp [Distinct]) es

theorem key_of_mem_insert {k : κ} {v : ν} {m : List (κ × ν)} {e : κ × ν}
    (h : e ∈ insert form k v m) : e.1 = k ∨ ∃ f ∈ m, f.1 = e.1 := by
  induction m with
  | nil =>
    obtain rfl := List.mem_singleton.mp h
    exact .inl rfl
  | cons d m ih =>
    obtain ⟨l, w⟩ := d
    rw [insert] at h
    split at h
    · rcases List.mem_cons.mp h with heq | hmem
      · exact .inr ⟨(l, w), by simp, by rw [heq]⟩
      · exact .inr ⟨e, List.mem_cons_of_mem _ hmem, rfl⟩
    · rcases List.mem_cons.mp h with heq | hmem
      · exact .inr ⟨(l, w), by simp, by rw [heq]⟩
      · rcases ih hmem with hk | ⟨f, hf, hfe⟩
        · exact .inl hk
        · exact .inr ⟨f, List.mem_cons_of_mem _ hf, hfe⟩

/-- Another value for an entry leaves the keys as they were. -/
theorem any_insert_of_get? {k : κ} {v w : ν} {m : List (κ × ν)} (h : get? form k m = some v)
    (p : κ → Bool) : (insert form k w m).any (fun e => p e.1) = m.any fun e => p e.1 := by
  induction m with
  | nil => cases h
  | cons e m ih =>
    obtain ⟨l, u⟩ := e
    by_cases hl : form l = form k
    · simp [insert, hl]
    · have hrest : get? form k m = some v := by
        rwa [get?_cons, if_neg hl] at h
      have hcons : insert form k w ((l, u) :: m) = (l, u) :: insert form k w m := by
        simp [insert, hl]
      rw [hcons, List.any_cons, List.any_cons, ih hrest]

/-- Every key of a mapping is a key that was written or was there before. -/
theorem key_of_mem_insertAll {m es : List (κ × ν)} {e : κ × ν}
    (h : e ∈ insertAll form m es) : (∃ f ∈ es, f.1 = e.1) ∨ ∃ f ∈ m, f.1 = e.1 := by
  induction es generalizing m with
  | nil => exact .inr ⟨e, h, rfl⟩
  | cons d es ih =>
    rcases ih (m := insert form d.1 d.2 m) h with ⟨f, hf, hfe⟩ | ⟨f, hf, hfe⟩
    · exact .inl ⟨f, List.mem_cons_of_mem _ hf, hfe⟩
    · rcases key_of_mem_insert form hf with hk | ⟨g, hg, hgf⟩
      · exact .inl ⟨d, by simp, hk.symm.trans hfe⟩
      · exact .inr ⟨g, hg, hgf.trans hfe⟩

theorem key_of_mem_ofList {es : List (κ × ν)} {e : κ × ν} (h : e ∈ ofList form es) :
    ∃ f ∈ es, f.1 = e.1 := by
  rcases key_of_mem_insertAll form h with hkey | ⟨f, hf, -⟩
  · exact hkey
  · cases hf

/-- Of several entries under one key the last one written is found. -/
theorem get?_insertAll (k : κ) (m es : List (κ × ν)) :
    get? form k (insertAll form m es) = (get? form k es.reverse).or (get? form k m) := by
  induction es generalizing m with
  | nil => simp [insertAll]
  | cons e es ih =>
    obtain ⟨l, v⟩ := e
    have hstep : insertAll form m ((l, v) :: es) = insertAll form (insert form l v m) es := rfl
    rw [hstep, ih, get?_insert, List.reverse_cons, get?_append, get?_cons]
    cases get? form k es.reverse <;> by_cases h : form l = form k <;> simp [h]

theorem get?_ne_none_iff {k : κ} {m : List (κ × ν)} :
    get? form k m ≠ none ↔ ∃ e ∈ m, form e.1 = form k := by
  rw [ne_eq, get?_eq_none_iff]
  push Not
  rfl

/-- Writing entries keeps every key and adds those that are written. -/
theorem exists_mem_insertAll_iff {k : κ} {m es : List (κ × ν)} :
    (∃ e ∈ insertAll form m es, form e.1 = form k)
      ↔ (∃ e ∈ es, form e.1 = form k) ∨ ∃ e ∈ m, form e.1 = form k := by
  have hreverse : (∃ e ∈ es, form e.1 = form k) ↔ ∃ e ∈ es.reverse, form e.1 = form k := by
    simp only [List.mem_reverse]
  rw [hreverse, ← get?_ne_none_iff, ← get?_ne_none_iff, ← get?_ne_none_iff, get?_insertAll, ne_eq,
    Option.or_eq_none_iff, not_and_or]

/-- Nothing is found in the end that was not written. -/
theorem mem_of_mem_ofList {es : List (κ × ν)} {e : κ × ν} (h : e ∈ ofList form es) :
    ∃ l, form l = form e.1 ∧ (l, e.2) ∈ es := by
  have hget : get? form e.1 (ofList form es) = some e.2 :=
    get?_of_mem form (distinct_ofList form es) h
  rw [ofList, get?_insertAll, get?_nil, Option.or_none] at hget
  obtain ⟨l, hl, hmem⟩ := mem_of_get? form hget
  exact ⟨l, hl, List.mem_reverse.mp hmem⟩

/-- Entries under new keys go to the end, in their order, and move nothing. -/
theorem insertAll_of_fresh {m es : List (κ × ν)} (hes : Distinct form es)
    (h : ∀ e ∈ es, get? form e.1 m = none) : insertAll form m es = m ++ es := by
  induction es generalizing m with
  | nil => exact (List.append_nil m).symm
  | cons e es ih =>
    obtain ⟨k, v⟩ := e
    obtain ⟨hnone, hdistinct⟩ := (distinct_cons form).mp hes
    have hk : get? form k m = none := h (k, v) (by simp)
    have hstep : insertAll form m ((k, v) :: es) = insertAll form (m ++ [(k, v)]) es := by
      rw [← insert_of_get?_eq_none form hk v]
      rfl
    -- the other keys are still new once this entry stands at the end
    have hrest : ∀ e ∈ es, get? form e.1 (m ++ [(k, v)]) = none := by
      intro e he
      have hne : form e.1 ≠ form k := (get?_eq_none_iff form k es).mp hnone e he
      rw [get?_append, h e (List.mem_cons_of_mem _ he), get?_cons, if_neg hne.symm]
      rfl
    rw [hstep, ih hdistinct hrest, List.append_assoc]
    rfl

/-- Distinct entries that are written are all found, whatever was there before. -/
theorem get?_insertAll_of_mem {k : κ} {v : ν} {m es : List (κ × ν)} (hd : Distinct form es)
    (he : (k, v) ∈ es) : get? form k (insertAll form m es) = some v := by
  have hrev : get? form k es.reverse = some v :=
    get?_of_mem form (hd.perm form (List.reverse_perm es).symm) (List.mem_reverse.mpr he)
  rw [get?_insertAll, hrev]
  rfl

/-! ### Other values under the same keys -/

section Values

variable {μ : Type} (f : ν → μ)

theorem get?_map (k : κ) (m : List (κ × ν)) :
    get? form k (m.map fun e => (e.1, f e.2)) = (get? form k m).map f := by
  induction m with
  | nil => rfl
  | cons e m ih =>
    obtain ⟨l, v⟩ := e
    rw [List.map_cons, get?_cons, get?_cons, ih]
    split <;> rfl

theorem insert_map (k : κ) (v : ν) (m : List (κ × ν)) :
    insert form k (f v) (m.map fun e => (e.1, f e.2))
      = (insert form k v m).map fun e => (e.1, f e.2) := by
  induction m with
  | nil => rfl
  | cons e m ih =>
    obtain ⟨l, w⟩ := e
    rw [List.map_cons, insert, insert, ih]
    split <;> rfl

theorem erase_map (k : κ) (m : List (κ × ν)) :
    erase form k (m.map fun e => (e.1, f e.2)) = (erase form k m).map fun e => (e.1, f e.2) := by
  induction m with
  | nil => rfl
  | cons e m ih =>
    obtain ⟨l, w⟩ := e
    rw [List.map_cons, erase, erase, ih]
    split <;> rfl

end Values

theorem erase_sublist (k : κ) (m : List (κ × ν)) : (erase form k m).Sublist m := by
  induction m with
  | nil => exact List.Sublist.slnil
  | cons e m ih =>
    obtain ⟨l, w⟩ := e
    rw [erase]
    split
    · exact List.sublist_cons_self _ m
    · exact ih.cons_cons _

/-! ### All entries but those of one key -/

def without (k : κ) (m : List (κ × ν)) : List (κ × ν) := m.filter fun e => form e.1 ≠ form k

theorem without_cons (k l : κ) (v : ν) (m : List (κ × ν)) :
    without form k ((l, v) :: m)
      = if form l = form k then without form k m else (l, v) :: without form k m := by
  rw [without, List.filter_cons]
  by_cases h : form l = form k <;> simp [h, without]

theorem without_append (k : κ) (m n : List (κ × ν)) :
    without form k (m ++ n) = without form k m ++ without form k n :=
  List.filter_append m n

theorem get?_without (k l : κ) (m : List (κ × ν)) :
    get? form l (without form k m) = if form l = form k then none else get? form l m := by
  induction m with
  | nil => simp [without]
  | cons e m ih =>
    obtain ⟨j, w⟩ := e
    rw [without_cons, get?_cons]
    by_cases hjk : form j = form k
    · by_cases hlk : form l = form k
      · rw [if_pos hjk, ih, if_pos hlk, if_pos hlk]
      · have hjl : form j ≠ form l := fun hjl => hlk (hjl.symm.trans hjk)
        rw [if_pos hjk, ih, if_neg hlk, if_neg hlk, if_neg hjl]
    · rw [if_neg hjk, get?_cons, ih]
      by_cases hjl : form j = form l
      · have hlk : form l ≠ form k := fun hlk => hjk (hjl.trans hlk)
        rw [if_pos hjl, if_pos hjl, if_neg hlk]
      · rw [if_neg hjl, if_neg hjl]

/-- Writing under a key does not show among the other keys. -/
theorem without_insert (k l : κ) (v : ν) (m : List (κ × ν)) :
    without form k (insert form l v m)
      = if form l = form k then without form k m else insert form l v (without form k m) := by
  induction m with
  | nil =>
    rw [insert, without_cons]
    rfl
  | cons e m ih =>
    obtain ⟨j, w⟩ := e
    rw [insert]
    by_cases hjl : form j = form l
    · rw [if_pos hjl, without_cons, without_cons, hjl]
      by_cases hlk : form l = form k
      · simp only [if_pos hlk]
      · simp only [if_neg hlk, insert, if_pos hjl]
    · rw [if_neg hjl, without_cons, without_cons, ih]
      by_cases hjk : form j = form k
      · simp only [if_pos hjk]
      · by_cases hlk : form l = form k
        · simp only [if_neg hjk, if_pos hlk]
        · simp only [if_neg hjk, if_neg hlk, insert, if_neg hjl]

/-- What is written under the other keys does not depend on what is written under this
    one. -/
theorem without_insertAll (k : κ) (m es : List (κ × ν)) :
    without form k (insertAll form m es)
      = insertAll form (without form k m) (without form k es) := by
  induction es generalizing m with
  | nil => rfl
  | cons e es ih =>
    obtain ⟨l, v⟩ := e
    have hstep : insertAll form m ((l, v) :: es) = insertAll form (insert form l v m) es := rfl
    rw [hstep, ih, without_insert, without_cons]
    by_cases h : form l = form k
    · rw [if_pos h, if_pos h]
    · rw [if_neg h, if_neg h]
      rfl

end WorkflowPolicy.Assoc

/-! ### Text keys among data -/

namespace WorkflowPolicy.Fields

variable {α : Type}

def without (m : Fields α) (k : Text) : Fields α := Assoc.without id k m

def toMapping (m : Fields Data) : Mapping := m.map fun e => (.text e.1, e.2)

theorem ofFields_eq (m : Fields Data) : Data.ofFields m = .map m.toMapping := rfl

@[simp] theorem get?_toMapping (m : Fields Data) (k : Text) :
    m.toMapping.get? (.text k) = m.get? k := by
  induction m with
  | nil => rfl
  | cons e m ih =>
    have hcons : toMapping (e :: m) = (.text e.1, e.2) :: toMapping m := rfl
    rw [hcons, Mapping.get?, Fields.get?, Assoc.get?_cons]
    by_cases h : e.1 = k
    · simp [h, Assoc.get?]
    · have hne : Data.keyForm (.text e.1) ≠ Data.keyForm (.text k) := by simpa using h
      rw [if_neg hne]
      exact ih.trans (if_neg h).symm

theorem distinct_toMapping {m : Fields Data} (h : Assoc.Distinct id m) :
    Assoc.Distinct Data.keyForm m.toMapping := by
  have hmap : (toMapping m).map (fun e => Data.keyForm e.1) = (m.map (·.1)).map Data.text := by
    simp [toMapping, List.map_map, Function.comp_def]
  rw [Assoc.Distinct, hmap]
  refine List.Nodup.map ?_ (by simpa [Assoc.Distinct] using h)
  intro s t hst
  exact Data.text.inj hst

end WorkflowPolicy.Fields

namespace WorkflowPolicy.Mapping

theorem value_congr {m n : Mapping} {k : Data} (h : m.get? k = n.get? k) :
    m.value k = n.value k := by
  rw [value, value, h]

theorem value_eq_iff {m : Mapping} {k d : Data} (h : d ≠ .null) :
    m.value k = d ↔ m.get? k = some d := by
  rw [value]
  cases m.get? k with
  | none => exact iff_of_false h.symm nofun
  | some e => exact Option.some_inj.symm

theorem get?_cons_self (key : Text) (v : Data) (m : Mapping) :
    get? ((.text key, v) :: m) key = some v := by
  rw [get?, Assoc.get?_cons, if_pos rfl]

theorem get?_cons_of_ne {key : Data} {other : Text} (h : key ≠ other) (v : Data) (m : Mapping) :
    get? ((key, v) :: m) other = m.get? other := by
  have hform : Data.keyForm key ≠ Data.keyForm other := fun heq => h (Data.keyForm_eq_text.mp heq)
  rw [get?, Assoc.get?_cons, if_neg hform, get?]

/-- Something is found under a text when the text is a key. -/
theorem get?_ne_none_iff {m : Mapping} {key : Text} :
    m.get? (.text key) ≠ none ↔ ∃ v, (Data.text key, v) ∈ m := by
  constructor
  · intro h
    obtain ⟨v, hv⟩ := Option.ne_none_iff_exists'.mp h
    obtain ⟨k, hk, hmem⟩ := Assoc.mem_of_get? Data.keyForm hv
    obtain rfl := Data.keyForm_eq_text.mp hk
    exact ⟨v, hmem⟩
  · rintro ⟨v, hmem⟩ hnone
    exact (Assoc.get?_eq_none_iff Data.keyForm _ m).mp hnone _ hmem rfl

theorem get?_insert_of_ne {key other : Text} (h : other ≠ key) (m : Mapping) (v : Data) :
    (m.insert key v).get? other = m.get? other := by
  refine Assoc.get?_insert_of_ne Data.keyForm ?_ v m
  intro hform
  exact h (Data.text.inj hform).symm

theorem value_insert_of_ne {key other : Text} (h : other ≠ key) (m : Mapping) (v : Data) :
    (m.insert key v).value other = m.value other :=
  value_congr (get?_insert_of_ne h m v)

theorem get?_insert_self (m : Mapping) (key : Text) (v : Data) :
    (m.insert key v).get? key = some v :=
  Assoc.get?_insert_self Data.keyForm _ v m

def withoutKeys (m : Mapping) (key key' : Text) : Mapping :=
  Assoc.without Data.keyForm (.text key) (Assoc.without Data.keyForm (.text key') m)

theorem get?_withoutKeys (m : Mapping) (key key' other : Text) :
    (m.withoutKeys key key').get? other
      = if other = key ∨ other = key' then none else m.get? other := by
  rw [withoutKeys, get?, Assoc.get?_without, Assoc.get?_without]
  simp only [Data.keyForm_text, Data.text.injEq]
  by_cases hkey : other = key
  · simp [hkey]
  · by_cases hkey' : other = key' <;> simp [hkey, hkey', get?]

end WorkflowPolicy.Mapping
