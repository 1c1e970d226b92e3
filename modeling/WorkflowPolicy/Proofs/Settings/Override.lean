/-
  WorkflowPolicy/Proofs/Settings/Override.lean
  ============================================
  **Overrides land where they say and nowhere else.**  An override goes along a way of
  keys.  It can be applied exactly when every value that it meets before the end of its
  way is a mapping (`Mapping.exists_setAt_iff`).  Then it is read at the end of its way,
  and every way that neither leads there nor goes on from there reads as before
  (`Mapping.atWay?_setAt_self`, `Mapping.atWay?_setAt_of_apart`).

  Overrides are applied one after the other, and the induction along them carries the
  mapping that the earlier ones left (`applyOverrides_lands`).
-/
import WorkflowPolicy.Proofs.Assoc
import WorkflowPolicy.Settings.Override

namespace WorkflowPolicy

/-! ### Ways -/

/-- Whether one of two ways goes on where the other ends, or both are the same. -/
def Meet {α : Type} (way other : List α) : Prop := way <+: other ∨ other <+: way

theorem Meet.cons {α : Type} {way other : List α} (h : Meet way other) (a : α) :
    Meet (a :: way) (a :: other) := by
  rcases h with hpre | hpre
  · exact .inl (List.cons_prefix_cons.mpr ⟨rfl, hpre⟩)
  · exact .inr (List.cons_prefix_cons.mpr ⟨rfl, hpre⟩)

theorem Meet.symm {α : Type} {way other : List α} (h : Meet way other) : Meet other way :=
  h.elim .inr .inl

theorem Meet.of_map {α β : Type} {f : α → β} (hf : f.Injective) {way other : List α}
    (h : Meet (way.map f) (other.map f)) : Meet way other := by
  rcases h with hpre | hpre
  · obtain ⟨l, hl, heq⟩ := List.prefix_map_iff.mp hpre
    exact .inl (List.map_injective_iff.mpr hf heq ▸ hl)
  · obtain ⟨l, hl, heq⟩ := List.prefix_map_iff.mp hpre
    exact .inr (List.map_injective_iff.mpr hf heq ▸ hl)

/-- What is found in a value at the end of a way of keys. -/
def Data.atWay? : Data → List Data → Option Data
  | d, [] => some d
  | .map es, k :: ks => (Mapping.get? es k).bind (·.atWay? ks)
  | _, _ :: _ => none

namespace Mapping

variable {m m' : Mapping} {v : Data} {way : List Text}

/-- What is found in a mapping at the end of a way of keys, which need not be texts. -/
def atWay? (m : Mapping) (way : List Data) : Option Data := (Data.map m).atWay? way

theorem atWay?_cons (m : Mapping) (k : Data) (ks : List Data) :
    m.atWay? (k :: ks) = (m.get? k).bind (·.atWay? ks) := rfl

theorem atWay?_map (m : Mapping) (way : List Text) :
    m.atWay? (way.map .text) = m.getAt? way := by
  induction way generalizing m with
  | nil => rfl
  | cons k ks ih =>
    rw [List.map_cons, atWay?_cons]
    cases ks with
    | nil => cases hk : m.get? k <;> simp [getAt?, hk, Data.atWay?]
    | cons l ks =>
      rw [getAt?.eq_3 _ _ _ (List.cons_ne_nil l ks)]
      cases m.get? k with
      | none => rfl
      | some d =>
        cases d with
        | map es => exact ih es
        | _ => rfl

/-! ### One override -/

/-- Whether every value before the end of a way is a mapping or missing. -/
def Open (m : Mapping) (way : List Text) : Prop :=
  ∀ start d, start <+: way → start ≠ way → m.getAt? start = some d → ∃ es, d = .map es

theorem inner_eq_ok {k : Text} {last : Bool} {below : Mapping} :
    m.inner k last = .ok below ↔ m.get? k = none ∧ below = [] ∨ m.get? k = some (.map below) := by
  rw [inner]
  cases hk : m.get? k with
  | none => simp [eq_comm]
  | some d => cases d <;> simp

/-- What a step inward reads is what is read from the mapping that it enters. -/
theorem getAt?_of_inner {k : Text} {last : Bool} {below : Mapping}
    (h : m.inner k last = .ok below) {q : List Data} (hq : q ≠ []) :
    m.atWay? (.text k :: q) = below.atWay? q := by
  obtain ⟨l, q, rfl⟩ := List.exists_cons_of_ne_nil hq
  rw [atWay?_cons]
  rcases inner_eq_ok.mp h with ⟨hk, rfl⟩ | hk
  · rw [hk]
    rfl
  · rw [hk]
    rfl

theorem setAt_cons {k : Text} {ks : List Text} (hks : ks ≠ []) :
    m.setAt v (k :: ks)
      = (m.inner k (ks.length == 1)).bind fun below =>
          (below.setAt v ks).map fun below' => m.insert k (.map below') := by
  obtain ⟨l, ks, rfl⟩ := List.exists_cons_of_ne_nil hks
  rw [setAt]
  · rfl
  · nofun

theorem setAt_cons_eq_ok {k : Text} {ks : List Text} (hks : ks ≠ [])
    (h : m.setAt v (k :: ks) = .ok m') :
    ∃ below below', m.inner k (ks.length == 1) = .ok below ∧ below.setAt v ks = .ok below'
      ∧ m' = m.insert k (.map below') := by
  rw [setAt_cons hks] at h
  cases hinner : m.inner k (ks.length == 1) with
  | error f =>
    rw [hinner] at h
    cases h
  | ok below =>
    cases hbelow : below.setAt v ks with
    | error f =>
      rw [hinner, Except.bind, hbelow] at h
      cases h
    | ok below' =>
      rw [hinner, Except.bind, hbelow] at h
      exact ⟨below, below', rfl, hbelow, (Except.ok.inj h).symm⟩

theorem open_cons {k : Text} {ks : List Text} (hks : ks ≠ []) :
    m.Open (k :: ks) ↔ ∃ below, m.inner k (ks.length == 1) = .ok below ∧ below.Open ks := by
  constructor
  · intro h
    -- the way goes on, so what stands under `k` has to be a mapping
    have hinner : ∃ below, m.inner k (ks.length == 1) = .ok below := by
      cases hk : m.get? k with
      | none => exact ⟨[], inner_eq_ok.mpr (.inl ⟨hk, rfl⟩)⟩
      | some d =>
        obtain ⟨es, rfl⟩ := h [k] d (by simp) (by simpa using hks.symm) hk
        exact ⟨es, inner_eq_ok.mpr (.inr hk)⟩
    obtain ⟨below, hbelow⟩ := hinner
    refine ⟨below, hbelow, ?_⟩
    intro start d hpre hne hget
    by_cases hstart : start = []
    · subst hstart
      exact ⟨below, (Option.some.inj hget).symm⟩
    · apply h (k :: start) d (List.cons_prefix_cons.mpr ⟨rfl, hpre⟩) (by simpa using hne)
      rw [← atWay?_map] at hget ⊢
      rw [List.map_cons, getAt?_of_inner hbelow (by simpa using hstart)]
      exact hget
  · rintro ⟨below, hbelow, hopen⟩ start d hpre hne hget
    rcases List.prefix_cons_iff.mp hpre with rfl | ⟨start, rfl, hstart⟩
    · exact ⟨m, (Option.some.inj hget).symm⟩
    · by_cases hnil : start = []
      · subst hnil
        rcases inner_eq_ok.mp hbelow with ⟨hk, -⟩ | hk
        · cases hk.symm.trans hget
        · exact ⟨below, Option.some.inj (hget.symm.trans hk)⟩
      · apply hopen start d hstart (by simpa using hne)
        rw [← atWay?_map] at hget ⊢
        rw [List.map_cons, getAt?_of_inner hbelow (by simpa using hnil)] at hget
        exact hget

/-- An override can be applied exactly when its way is open. -/
theorem exists_setAt_iff (m : Mapping) (v : Data) (way : List Text) :
    (∃ m', m.setAt v way = .ok m') ↔ m.Open way := by
  induction way generalizing m with
  | nil =>
    refine iff_of_true ⟨m, rfl⟩ ?_
    intro start d hpre hne
    exact (hne (List.prefix_nil.mp hpre)).elim
  | cons k ks ih =>
    by_cases hks : ks = []
    · subst hks
      -- the last key is set whatever stands under it
      refine iff_of_true ⟨m.insert k v, rfl⟩ ?_
      intro start d hpre hne hget
      rcases List.prefix_cons_iff.mp hpre with rfl | ⟨start, rfl, hstart⟩
      · exact ⟨m, (Option.some.inj hget).symm⟩
      · exact (hne (by rw [List.prefix_nil.mp hstart])).elim
    · rw [open_cons hks]
      constructor
      · rintro ⟨m', h⟩
        obtain ⟨below, below', hinner, hset, -⟩ := setAt_cons_eq_ok hks h
        exact ⟨below, hinner, (ih below).mp ⟨below', hset⟩⟩
      · rintro ⟨below, hinner, hopen⟩
        obtain ⟨below', hset⟩ := (ih below).mpr hopen
        refine ⟨m.insert k (.map below'), ?_⟩
        rw [setAt_cons hks, hinner, Except.bind, hset]
        rfl

/-- What was set is read at the end of its way. -/
theorem getAt?_setAt_self (hway : way ≠ []) (h : m.setAt v way = .ok m') :
    m'.getAt? way = some v := by
  induction way generalizing m m' with
  | nil => exact (hway rfl).elim
  | cons k ks ih =>
    by_cases hks : ks = []
    · subst hks
      cases h
      exact get?_insert_self m k v
    · obtain ⟨below, below', -, hset, rfl⟩ := setAt_cons_eq_ok hks h
      rw [← atWay?_map, List.map_cons, atWay?_cons, get?_insert_self, Option.bind_some]
      exact (atWay?_map below' ks).trans (ih hks hset)

/-- A way that does not meet the way of an override reads as before. -/
theorem atWay?_setAt_of_apart {other : List Data} (h : m.setAt v way = .ok m')
    (hapart : ¬ Meet other (way.map .text)) : m'.atWay? other = m.atWay? other := by
  induction way generalizing m m' other with
  | nil => exact (hapart (.inr (List.nil_prefix))).elim
  | cons k ks ih =>
    obtain ⟨j, js, rfl⟩ : ∃ j js, other = j :: js := by
      apply List.exists_cons_of_ne_nil
      rintro rfl
      exact hapart (.inl List.nil_prefix)
    rw [List.map_cons] at hapart
    -- the two ways part here, or they share this key and part further down
    by_cases hj : j = .text k
    · subst hj
      have hjs : ¬ Meet js (ks.map .text) := fun hmeet => hapart (hmeet.cons (.text k))
      have hne : js ≠ [] ∧ ks ≠ [] := by
        constructor
        · rintro rfl
          exact hjs (.inl List.nil_prefix)
        · rintro rfl
          exact hjs (.inr List.nil_prefix)
      obtain ⟨below, below', hinner, hset, rfl⟩ := setAt_cons_eq_ok hne.2 h
      rw [getAt?_of_inner hinner hne.1, ← ih hset hjs, atWay?_cons, get?_insert_self]
      rfl
    · -- the override is written under another key
      have hother : ∀ w : Data, (m.insert k w).get? j = m.get? j := by
        intro w
        apply Assoc.get?_insert_of_ne
        intro hform
        exact hj (Data.keyForm_eq_text.mp hform.symm)
      have hm' : ∃ w, m' = m.insert k w := by
        by_cases hks : ks = []
        · subst hks
          exact ⟨v, (Except.ok.inj h).symm⟩
        · obtain ⟨-, below', -, -, rfl⟩ := setAt_cons_eq_ok hks h
          exact ⟨.map below', rfl⟩
      obtain ⟨w, rfl⟩ := hm'
      rw [atWay?_cons, atWay?_cons, hother]

end Mapping

/-! ### Overrides one after the other -/

/-- A fold over steps that may fail stops at the first step that fails. -/
theorem foldlM_eq_error_iff {σ α ε : Type} {step : σ → α → Except ε σ} {s : σ} {l : List α}
    {f : ε} :
    l.foldlM step s = .error f ↔ ∃ before a after s', l = before ++ a :: after
      ∧ before.foldlM step s = .ok s' ∧ step s' a = .error f := by
  induction l generalizing s with
  | nil => simp [pure, Except.pure]
  | cons x l ih =>
    rw [List.foldlM_cons]
    cases hx : step s x with
    | error g =>
      constructor
      · intro h
        exact ⟨[], x, l, s, rfl, rfl, hx.trans h⟩
      · -- the first step fails, so nothing stands before the step that fails
        rintro ⟨before, a, after, s', hl, hbefore, ha⟩
        cases before with
        | nil =>
          obtain ⟨rfl, rfl⟩ := List.cons.inj hl
          cases hbefore
          exact hx.symm.trans ha
        | cons y before =>
          obtain ⟨rfl, -⟩ := List.cons.inj hl
          rw [List.foldlM_cons, hx] at hbefore
          cases hbefore
    | ok s₁ =>
      refine (ih (s := s₁)).trans ⟨?_, ?_⟩
      · rintro ⟨before, a, after, s', rfl, hbefore, ha⟩
        refine ⟨x :: before, a, after, s', rfl, ?_, ha⟩
        rw [List.foldlM_cons, hx]
        exact hbefore
      · -- the first step passes, so it stands before the step that fails
        rintro ⟨before, a, after, s', hl, hbefore, ha⟩
        cases before with
        | nil =>
          obtain ⟨rfl, rfl⟩ := List.cons.inj hl
          cases hbefore
          cases hx.symm.trans ha
        | cons y before =>
          obtain ⟨rfl, rfl⟩ := List.cons.inj hl
          rw [List.foldlM_cons, hx] at hbefore
          exact ⟨before, a, after, s', rfl, hbefore, ha⟩

namespace Settings

variable {m m' : Mapping} {overrides : Fields Data}

theorem overridePath_ne_nil (key : Text) : overridePath key ≠ [] := by
  rw [overridePath, Text.splitText]
  intro h
  exact Text.parts_ne_nil (.char '.') key.toList (List.map_eq_nil_iff.mp h)

theorem override_eq {key : Text} {v : Data} (hv : v ≠ .null) (m : Mapping) :
    override m key v = m.setAt v (overridePath key) := if_neg hv

theorem exists_override_iff {key : Text} {v : Data} :
    (∃ m', override m key v = .ok m') ↔ (v ≠ .null → m.Open (overridePath key)) := by
  by_cases hv : v = .null
  · subst hv
    exact iff_of_true ⟨m, override_null m key⟩ fun h => (h rfl).elim
  · rw [override_eq hv, Mapping.exists_setAt_iff]
    exact ⟨fun h _ => h, fun h => h hv⟩

theorem overrideEntry_text (m : Mapping) (key : Text) (v : Data) :
    overrideEntry m (.text key, v) = override m key v := by
  cases v with
  | null => rw [overrideEntry_null, override_null]
  | _ => rfl

theorem applyOverrides_eq (m : Mapping) (overrides : Fields Data) :
    applyOverrides m overrides.toMapping = overrides.foldlM (fun m e => override m e.1 e.2) m := by
  rw [applyOverrides, Fields.toMapping, List.foldlM_map]
  simp only [overrideEntry_text]

theorem applyOverrides_cons (m : Mapping) (e : Text × Data) (overrides : Fields Data) :
    applyOverrides m (Fields.toMapping (e :: overrides))
      = (override m e.1 e.2).bind fun m => applyOverrides m overrides.toMapping := by
  rw [applyOverrides_eq, List.foldlM_cons]
  simp only [applyOverrides_eq]
  rfl

/-- Whether no override meets a value that is no mapping before the end of its way.  What
    it meets is what the overrides before it left. -/
def Clear (m : Mapping) (overrides : Fields Data) : Prop :=
  ∀ (before : Fields Data) key v after m', overrides = before ++ (key, v) :: after → v ≠ .null →
    applyOverrides m before.toMapping = .ok m' → m'.Open (overridePath key)

theorem exists_applyOverrides_iff (m : Mapping) (overrides : Fields Data) :
    (∃ m', applyOverrides m overrides.toMapping = .ok m') ↔ Clear m overrides := by
  constructor
  · rintro ⟨m₁, h⟩ before key v after m' rfl hv hbefore
    -- an override that fails would have stopped all of them
    have hnot : ¬ ∃ f, override m' key v = .error f := by
      rintro ⟨f, hf⟩
      have herror := foldlM_eq_error_iff.mpr
        ⟨before, (key, v), after, m', rfl, applyOverrides_eq m before ▸ hbefore, hf⟩
      rw [applyOverrides_eq, herror] at h
      cases h
    cases hkey : override m' key v with
    | error f => exact (hnot ⟨f, hkey⟩).elim
    | ok m₂ => exact exists_override_iff.mp ⟨m₂, hkey⟩ hv
  · intro hclear
    cases h : applyOverrides m overrides.toMapping with
    | ok m' => exact ⟨m', rfl⟩
    | error f =>
      rw [applyOverrides_eq] at h
      obtain ⟨before, ⟨key, v⟩, after, m', hl, hbefore, hf⟩ := foldlM_eq_error_iff.mp h
      rw [← applyOverrides_eq] at hbefore
      have hopen := exists_override_iff.mpr fun hv => hclear before key v after m' hl hv hbefore
      obtain ⟨m₂, hm₂⟩ := hopen
      cases hm₂.symm.trans hf

/-- A way that meets no override reads as before. -/
theorem atWay?_applyOverrides {way : List Data}
    (h : applyOverrides m overrides.toMapping = .ok m')
    (hapart : ∀ e ∈ overrides, e.2 ≠ .null → ¬ Meet way ((overridePath e.1).map .text)) :
    m'.atWay? way = m.atWay? way := by
  induction overrides generalizing m with
  | nil =>
    cases h
    rfl
  | cons e overrides ih =>
    rw [applyOverrides_cons] at h
    cases he : override m e.1 e.2 with
    | error f =>
      rw [he] at h
      cases h
    | ok m₁ =>
      rw [he] at h
      rw [ih h fun e he => hapart e (List.mem_cons_of_mem _ he)]
      by_cases hv : e.2 = .null
      · rw [hv, override_null] at he
        cases he
        rfl
      · rw [override_eq hv] at he
        exact Mapping.atWay?_setAt_of_apart he (hapart e (by simp) hv)

/-- Nulls override nothing. -/
theorem applyOverrides_filter (m : Mapping) (overrides : Fields Data) :
    applyOverrides m (Fields.toMapping (overrides.filter fun e => e.2 ≠ .null))
      = applyOverrides m overrides.toMapping := by
  induction overrides generalizing m with
  | nil => rfl
  | cons e overrides ih =>
    rw [List.filter_cons]
    by_cases hv : e.2 = .null
    · rw [if_neg (by simpa using hv), ih, applyOverrides_cons, hv, override_null]
      rfl
    · rw [if_pos (by simpa using hv), applyOverrides_cons, applyOverrides_cons]
      simp only [ih]

/-- What overrides do to a mapping. -/
structure Landed (m : Mapping) (overrides : Fields Data) (m' : Mapping) : Prop where
  /-- An override whose way no later one meets is read at the end of its way. -/
  reads : ∀ before key v after, overrides = before ++ (key, v) :: after → v ≠ .null →
    (∀ e ∈ after, e.2 ≠ .null → ¬ Meet (overridePath e.1) (overridePath key)) →
    m'.getAt? (overridePath key) = some v
  /-- A way that meets no override reads as before, whether something is there or not. -/
  keeps : ∀ way, (∀ e ∈ overrides, e.2 ≠ .null → ¬ Meet way ((overridePath e.1).map .text)) →
    m'.atWay? way = m.atWay? way
  /-- Without the nulls the overrides do the same. -/
  nulls : applyOverrides m (Fields.toMapping (overrides.filter fun e => e.2 ≠ .null)) = .ok m'

/-- **Overrides land where they say and nowhere else**, as long as the values that they
    meet on their ways are mappings. -/
theorem applyOverrides_lands (h : Clear m overrides) :
    ∃ m', applyOverrides m overrides.toMapping = .ok m' ∧ Landed m overrides m' := by
  obtain ⟨m', hm'⟩ := (exists_applyOverrides_iff m overrides).mpr h
  refine ⟨m', hm', ?_, ?_, ?_⟩
  · rintro before key v after rfl hv hlater
    rw [applyOverrides_eq, List.foldlM_append] at hm'
    cases hbefore : before.foldlM (fun m e => override m e.1 e.2) m with
    | error f =>
      rw [hbefore] at hm'
      cases hm'
    | ok m₁ =>
      rw [hbefore] at hm'
      have hafter : applyOverrides m₁ (Fields.toMapping ((key, v) :: after)) = .ok m' := by
        rw [applyOverrides_eq]
        exact hm'
      rw [applyOverrides_cons, override_eq hv] at hafter
      cases hset : m₁.setAt v (overridePath key) with
      | error f =>
        rw [hset] at hafter
        cases hafter
      | ok m₂ =>
        rw [hset] at hafter
        have hself := Mapping.getAt?_setAt_self (overridePath_ne_nil key) hset
        rw [← Mapping.atWay?_map] at hself ⊢
        rw [atWay?_applyOverrides hafter, hself]
        intro e he hne hmeet
        exact hlater e he hne (hmeet.of_map (fun _ _ => Data.text.inj)).symm
  · intro way hapart
    exact atWay?_applyOverrides hm' hapart
  · rw [applyOverrides_filter, hm']

/-- Entries under a number and under a text that names a mapping. -/
def nestedEntries : Mapping :=
  [(.text "logging", .map [(.text "level", .text "info"), (.text "file", .text "a.log")]),
   (.int 1, .bool true)]

/-- Overrides that create a mapping, set an entry in it later, and skip a null. -/
def nestedOverrides : Fields Data :=
  [("logging.level", .text "debug"), ("trial.repo", .map [(.text "name", .text "r")]),
   ("logging.file", .null), ("trial.repo.owner", .text "o")]

theorem applyOverrides_lands_nested :
    Clear nestedEntries nestedOverrides
      ∧ applyOverrides nestedEntries nestedOverrides.toMapping = .ok
        [(.text "logging", .map [(.text "level", .text "debug"), (.text "file", .text "a.log")]),
         (.int 1, .bool true),
         (.text "trial",
          .map [(.text "repo", .map [(.text "name", .text "r"), (.text "owner", .text "o")])])]
      ∧ ∃ m', applyOverrides nestedEntries nestedOverrides.toMapping = .ok m'
        ∧ Landed nestedEntries nestedOverrides m' := by
  have hclear := (exists_applyOverrides_iff nestedEntries nestedOverrides).mp ⟨_, rfl⟩
  exact ⟨hclear, rfl, applyOverrides_lands hclear⟩

end Settings

end WorkflowPolicy
