/-
  WorkflowPolicy/Proofs/Settings/DocumentOverride.lean
  ====================================================
  **Overrides of a document.**  Where a collection stands in several places, an override
  changes all of them, so the ways of a document lead through its collections instead of
  a tree.  Still an override can be applied exactly when every part that it meets before
  the end of its way is a mapping (`Document.exists_setAt_iff`).

  Overrides of settings fail exactly when one of them is blocked by what the earlier ones
  left (`Settings.exists_overridden_error_iff`).
-/
import WorkflowPolicy.Proofs.Settings.Override

namespace WorkflowPolicy

namespace Document

variable {doc doc' : Document} {p : Part} {way : List Text}

/-! ### Ways through a document -/

def isMapping (doc : Document) (p : Part) : Bool := (doc.entries? p).isSome

/-- Whether every part before the end of a way that starts at a part is a mapping or
    missing. -/
def Open (doc : Document) (p : Part) (way : List Text) : Prop :=
  ∀ start q, start <+: way → start ≠ way →
    start.foldlM (fun p k => doc.part? p (.text k)) p = some q → doc.isMapping q = true

theorem open_nil (doc : Document) (p : Part) : doc.Open p [] := by
  intro start q hpre hne
  exact (hne (List.prefix_nil.mp hpre)).elim

theorem open_cons {k : Text} {ks : List Text} :
    doc.Open p (k :: ks)
      ↔ doc.isMapping p = true ∧ ∀ q, doc.part? p (.text k) = some q → doc.Open q ks := by
  constructor
  · intro h
    refine ⟨h [] p List.nil_prefix nofun rfl, ?_⟩
    intro q hq start r hpre hne hr
    apply h (k :: start) r (List.cons_prefix_cons.mpr ⟨rfl, hpre⟩) (by simpa using hne)
    rw [List.foldlM_cons, hq]
    exact hr
  · rintro ⟨hp, hopen⟩ start r hpre hne hr
    rcases List.prefix_cons_iff.mp hpre with rfl | ⟨start, rfl, hstart⟩
    · cases hr
      exact hp
    · rw [List.foldlM_cons] at hr
      obtain ⟨q, hq, hrest⟩ := Option.bind_eq_some_iff.mp hr
      exact hopen q hq start r hstart (by simpa using hne) hrest

theorem entries?_own (doc doc' : Document) (d : Data) :
    doc.entries? (.own d) = doc'.entries? (.own d) := by
  cases d <;> rfl

/-- Values that stand in one place alone are the same in every document. -/
theorem open_own (doc doc' : Document) (d : Data) (way : List Text) :
    doc.Open (.own d) way ↔ doc'.Open (.own d) way := by
  induction way generalizing d with
  | nil => exact iff_of_true (open_nil doc _) (open_nil doc' _)
  | cons k ks ih =>
    rw [open_cons, open_cons, isMapping, isMapping, part?, part?, entries?_own doc doc' d]
    refine and_congr Iff.rfl (forall_congr' fun q => imp_congr_right fun hq => ?_)
    obtain ⟨es, hes, hget⟩ := Option.bind_eq_some_iff.mp hq
    obtain ⟨l, -, hmem⟩ := Assoc.mem_of_get? Data.keyForm hget
    -- what lies in a value of this place alone is shared with no other place
    have hown : ∃ e, q = .own e := by
      cases d with
      | map ds =>
        cases hes
        obtain ⟨e, -, he⟩ := List.mem_map.mp hmem
        exact ⟨e.2, (Prod.mk.inj he).2.symm⟩
      | _ => cases hes
    obtain ⟨e, rfl⟩ := hown
    exact ih e

theorem open_emptyMap (doc : Document) (way : List Text) : doc.Open (.own (.map [])) way := by
  cases way with
  | nil => exact open_nil doc _
  | cons k ks => exact open_cons.mpr ⟨rfl, nofun⟩

/-! ### Collections that are added and changed -/

theorem lt_size_of_isMapping {id : Nat} (h : doc.isMapping (.shared id) = true) :
    id < doc.size := by
  rw [isMapping, entries?, Document.get?] at h
  cases hid : doc.collections[id]? with
  | none =>
    rw [hid] at h
    cases h
  | some c => exact (Array.getElem?_eq_some_iff.mp hid).1

theorem entries?_add_of_lt {id : Nat} (h : id < doc.size) (c : Collection) :
    (doc.add c).entries? (.shared id) = doc.entries? (.shared id) := by
  simp only [entries?, Document.get?, add]
  rw [Array.getElem?_push_lt h, Array.getElem?_eq_getElem h]

theorem entries?_insert_of_ne {id other : Nat} (h : id ≠ other) (k : Text) (q : Part) :
    (doc.insert id k q).entries? (.shared other) = doc.entries? (.shared other) := by
  rw [insert]
  split
  · simp only [entries?, Document.get?, set]
    rw [Array.getElem?_setIfInBounds_ne h]
  · rfl

theorem isMapping_insert (doc : Document) (id : Nat) (k : Text) (q : Part) (other : Nat)
    (h : doc.isMapping (.shared other) = true) :
    (doc.insert id k q).isMapping (.shared other) = true := by
  by_cases hid : id = other
  · subst hid
    have hlt := lt_size_of_isMapping h
    rw [insert]
    split
    · simp only [isMapping, entries?, Document.get?, set]
      rw [Array.getElem?_setIfInBounds_self_of_lt hlt]
      rfl
    · exact h
  · rw [isMapping, entries?_insert_of_ne hid]
    exact h

theorem entries?_addUnder {id : Nat} (hid : id < doc.size) (k : Text) (m : Mapping) :
    (doc.addUnder id k m).entries? (.shared doc.size) = some (m.map fun e => (e.1, .own e.2)) := by
  rw [addUnder, entries?_insert_of_ne (Nat.ne_of_lt hid)]
  simp only [entries?, Document.get?, add, size, Array.getElem?_push_size]

theorem isMapping_new {id : Nat} (hid : id < doc.size) (k : Text) (m : Mapping) :
    (doc.addUnder id k m).isMapping (.shared doc.size) = true := by
  rw [isMapping, entries?_addUnder hid]
  rfl

/-- A mapping that is taken out of its place keeps the ways through it. -/
theorem open_addUnder {id : Nat} (hid : id < doc.size) {k : Text} {es : Mapping}
    {ks : List Text} :
    (doc.addUnder id k es).Open (.shared doc.size) ks ↔ doc.Open (.own (.map es)) ks := by
  cases ks with
  | nil => exact iff_of_true (open_nil _ _) (open_nil _ _)
  | cons l ks =>
    rw [open_cons, open_cons, isMapping, part?, entries?_addUnder hid]
    refine and_congr Iff.rfl (forall_congr' fun q => imp_congr_right fun hq => ?_)
    -- what lies in the mapping stands there alone, so the larger document adds nothing to it
    obtain ⟨l, -, hmem⟩ := Assoc.mem_of_get? Data.keyForm hq
    obtain ⟨e, -, he⟩ := List.mem_map.mp hmem
    obtain rfl := (Prod.mk.inj he).2
    exact open_own _ _ e.2 ks

theorem isMapping_addUnder {id other : Nat} (k : Text) (m : Mapping)
    (h : doc.isMapping (.shared other) = true) :
    (doc.addUnder id k m).isMapping (.shared other) = true := by
  apply isMapping_insert
  rw [isMapping, entries?_add_of_lt (lt_size_of_isMapping h)]
  exact h

/-! ### One override -/

theorem setAt_cons {v : Data} {id : Nat} {k : Text} {ks : List Text} (hks : ks ≠ []) :
    doc.setAt v id (k :: ks)
      = (doc.inner id k (ks.length == 1)).bind fun r => r.2.setAt v r.1 ks := by
  obtain ⟨l, ks, rfl⟩ := List.exists_cons_of_ne_nil hks
  rw [setAt]
  · rfl
  · nofun

/-- A step inward enters a mapping that is new or taken out of its place, or one that is
    shared already. -/
theorem inner_eq_ok {id below : Nat} {k : Text} {last : Bool} :
    doc.inner id k last = .ok (below, doc')
      ↔ (∃ es, (doc.part? (.shared id) (.text k) = none ∧ es = []
            ∨ doc.part? (.shared id) (.text k) = some (.own (.map es)))
          ∧ below = doc.size ∧ doc' = doc.addUnder id k es)
        ∨ doc.part? (.shared id) (.text k) = some (.shared below)
          ∧ doc.isMapping (.shared below) = true ∧ doc' = doc := by
  rw [inner]
  cases hpart : doc.part? (.shared id) (.text k) with
  | none =>
    constructor
    · rintro ⟨⟩
      exact .inl ⟨[], .inl ⟨rfl, rfl⟩, rfl, rfl⟩
    · rintro (⟨es, ⟨-, rfl⟩ | ⟨⟨⟩⟩, rfl, rfl⟩ | ⟨⟨⟩, -⟩)
      rfl
  | some p =>
    cases p with
    | shared c =>
      -- a shared mapping is entered where it is; no other shared part has entries
      by_cases hc : doc.isMapping (.shared c) = true
      · refine (iff_of_eq (congrArg (· = _) (if_pos hc))).trans ?_
        constructor
        · rintro ⟨⟩
          exact .inr ⟨rfl, hc, rfl⟩
        · rintro (⟨es, ⟨⟨⟩, -⟩ | ⟨⟨⟩⟩, -⟩ | ⟨⟨⟩, -, rfl⟩)
          rfl
      · refine (iff_of_eq (congrArg (· = _) (if_neg hc))).trans (iff_of_false nofun ?_)
        rintro (⟨es, ⟨⟨⟩, -⟩ | ⟨⟨⟩⟩, -⟩ | ⟨⟨⟩, hbelow, -⟩)
        exact hc hbelow
    | own d =>
      -- a mapping that stands in this place alone becomes a collection of its own
      cases d with
      | map es =>
        constructor
        · rintro ⟨⟩
          exact .inl ⟨es, .inr rfl, rfl, rfl⟩
        · rintro (⟨es, ⟨⟨⟩, -⟩ | ⟨⟨⟩⟩, rfl, rfl⟩ | ⟨⟨⟩, -⟩)
          rfl
      | _ =>
        refine iff_of_false nofun ?_
        rintro (⟨es, ⟨⟨⟩, -⟩ | ⟨⟨⟩⟩, -⟩ | ⟨⟨⟩, -⟩)

/-- From the mapping that a step inward enters the same ways are open as from what stood in
    its place; nothing blocks a way where nothing stood. -/
theorem open_of_inner {id below : Nat} {k : Text} {last : Bool}
    (hid : doc.isMapping (.shared id) = true) (h : doc.inner id k last = .ok (below, doc')) :
    doc'.isMapping (.shared below) = true ∧ ∀ ks, doc'.Open (.shared below) ks
      ↔ ∀ q, doc.part? (.shared id) (.text k) = some q → doc.Open q ks := by
  have hlt := lt_size_of_isMapping hid
  rcases inner_eq_ok.mp h with ⟨es, hes, rfl, rfl⟩ | ⟨hpart, hbelow, rfl⟩
  · refine ⟨isMapping_new hlt k es, fun ks => ?_⟩
    rw [open_addUnder hlt]
    rcases hes with ⟨hpart, rfl⟩ | hpart
    · exact iff_of_true (open_emptyMap doc ks) fun q hq => nomatch hpart.symm.trans hq
    · simp only [hpart, Option.some.injEq, forall_eq']
  · refine ⟨hbelow, fun ks => ?_⟩
    simp only [hpart, Option.some.injEq, forall_eq']

theorem exists_inner_iff {id : Nat} (k : Text) (last : Bool) :
    (∃ r, doc.inner id k last = .ok r)
      ↔ ∀ q, doc.part? (.shared id) (.text k) = some q → doc.isMapping q = true := by
  constructor
  · rintro ⟨⟨below, doc'⟩, h⟩ q hq
    rcases inner_eq_ok.mp h with ⟨es, ⟨hpart, -⟩ | hpart, -⟩ | ⟨hpart, hbelow, -⟩
    · cases hpart.symm.trans hq
    · cases hpart.symm.trans hq
      rfl
    · cases hpart.symm.trans hq
      exact hbelow
  · intro h
    cases hpart : doc.part? (.shared id) (.text k) with
    | none => exact ⟨_, inner_eq_ok.mpr (.inl ⟨[], .inl ⟨hpart, rfl⟩, rfl, rfl⟩)⟩
    | some p =>
      cases p with
      | shared c => exact ⟨_, inner_eq_ok.mpr (.inr ⟨hpart, h _ hpart, rfl⟩)⟩
      | own d =>
        cases d with
        | map es => exact ⟨_, inner_eq_ok.mpr (.inl ⟨es, .inr hpart, rfl, rfl⟩)⟩
        | _ => cases h _ hpart

/-- An override can be applied exactly when its way is open. -/
theorem exists_setAt_iff {id : Nat} (hid : doc.isMapping (.shared id) = true) (v : Data)
    (way : List Text) : (∃ doc', doc.setAt v id way = .ok doc') ↔ doc.Open (.shared id) way := by
  induction way generalizing doc id with
  | nil => exact iff_of_true ⟨doc, rfl⟩ (open_nil doc _)
  | cons k ks ih =>
    rw [open_cons]
    by_cases hks : ks = []
    · subst hks
      exact iff_of_true ⟨_, rfl⟩ ⟨hid, fun q _ => open_nil doc q⟩
    · rw [setAt_cons hks]
      cases hinner : doc.inner id k (ks.length == 1) with
      | error f =>
        -- a part on the way is no mapping, and the way goes on behind it
        refine iff_of_false ?_ ?_
        · rintro ⟨doc', h⟩
          cases h
        · rintro ⟨-, hopen⟩
          have hmapping : ∀ q, doc.part? (.shared id) (.text k) = some q →
              doc.isMapping q = true := by
            intro q hq
            exact hopen q hq [] q List.nil_prefix (Ne.symm hks) rfl
          obtain ⟨r, hr⟩ := (exists_inner_iff k (ks.length == 1)).mpr hmapping
          cases hinner.symm.trans hr
      | ok r =>
        obtain ⟨below, doc'⟩ := r
        obtain ⟨hbelow, hways⟩ := open_of_inner hid hinner
        exact (ih hbelow).trans ((hways ks).trans (and_iff_right hid).symm)

theorem isMapping_inner {id below other : Nat} {k : Text} {last : Bool}
    (h : doc.inner id k last = .ok (below, doc')) (hother : doc.isMapping (.shared other) = true) :
    doc'.isMapping (.shared other) = true := by
  rcases inner_eq_ok.mp h with ⟨es, -, -, rfl⟩ | ⟨-, -, rfl⟩
  · exact isMapping_addUnder k es hother
  · exact hother

theorem isMapping_setAt {v : Data} {id other : Nat} {way : List Text}
    (h : doc.setAt v id way = .ok doc') (hother : doc.isMapping (.shared other) = true) :
    doc'.isMapping (.shared other) = true := by
  induction way generalizing doc id with
  | nil =>
    cases h
    exact hother
  | cons k ks ih =>
    by_cases hks : ks = []
    · subst hks
      cases h
      exact isMapping_insert doc id k (.own v) other hother
    · rw [setAt_cons hks] at h
      cases hinner : doc.inner id k (ks.length == 1) with
      | error f =>
        rw [hinner] at h
        cases h
      | ok r =>
        obtain ⟨below, mid⟩ := r
        rw [hinner] at h
        exact ih h (isMapping_inner hinner hother)

end Document

/-! ### Overrides that cannot be applied -/

namespace Settings

/-- Whether an override that is no null finds its way closed by what the overrides before
    it left, or has no way at all because its key is no text. -/
def Stops {σ : Type} (step : σ → Data × Data → Except OverrideFault σ)
    (isOpen : σ → List Text → Prop) (s : σ) (overrides : Mapping) : Prop :=
  ∃ before e after s', overrides = before ++ e :: after ∧ before.foldlM step s = .ok s'
    ∧ e.2 ≠ .null ∧ ∀ key, e.1 = .text key → ¬ isOpen s' (overridePath key)

/-- What every step keeps holds after all of them. -/
theorem foldlM_keeps {σ : Type} {step : σ → Data × Data → Except OverrideFault σ} {P : σ → Prop}
    (hstep : ∀ s e s', P s → step s e = .ok s' → P s') {s s' : σ} {es : Mapping} (hs : P s)
    (h : List.foldlM step s es = .ok s') : P s' := by
  induction es generalizing s with
  | nil =>
    cases h
    exact hs
  | cons e es ih =>
    rw [List.foldlM_cons] at h
    cases he : step s e with
    | error f =>
      rw [he] at h
      cases h
    | ok s₁ =>
      rw [he] at h
      exact ih (hstep s e s₁ hs he) h

theorem exists_foldlM_error_iff {σ : Type} {step : σ → Data × Data → Except OverrideFault σ}
    {isOpen : σ → List Text → Prop} {P : σ → Prop}
    (hkeeps : ∀ s e s', P s → step s e = .ok s' → P s')
    (hstep : ∀ s e, P s → ((∃ f, step s e = .error f)
      ↔ e.2 ≠ .null ∧ ∀ key, e.1 = .text key → ¬ isOpen s (overridePath key)))
    {s : σ} (hs : P s) (overrides : Mapping) :
    (∃ f, List.foldlM step s overrides = .error f) ↔ Stops step isOpen s overrides := by
  constructor
  · rintro ⟨f, hf⟩
    obtain ⟨before, e, after, s', hl, hbefore, he⟩ := foldlM_eq_error_iff.mp hf
    obtain ⟨hnull, hopen⟩ := (hstep s' e (foldlM_keeps hkeeps hs hbefore)).mp ⟨f, he⟩
    exact ⟨before, e, after, s', hl, hbefore, hnull, hopen⟩
  · rintro ⟨before, e, after, s', hl, hbefore, hnull, hopen⟩
    obtain ⟨f, he⟩ := (hstep s' e (foldlM_keeps hkeeps hs hbefore)).mpr ⟨hnull, hopen⟩
    exact ⟨f, foldlM_eq_error_iff.mpr ⟨before, e, after, s', hl, hbefore, he⟩⟩

/-- A step fails when what it does with a text key and a value fails. -/
theorem exists_error_iff {σ : Type} {step : σ → Data × Data → Except OverrideFault σ}
    (set : σ → Data → List Text → Except OverrideFault σ) {isOpen : List Text → Prop} {s : σ}
    (hnull : ∀ k, step s (k, .null) = .ok s)
    (htext : ∀ key v, v ≠ .null → step s (.text key, v) = set s v (overridePath key))
    (hother : ∀ k v, v ≠ .null → (∀ key, k ≠ .text key) → step s (k, v) = .error .noWay)
    (hset : ∀ v way, (∃ s', set s v way = .ok s') ↔ isOpen way) (e : Data × Data) :
    (∃ f, step s e = .error f)
      ↔ e.2 ≠ .null ∧ ∀ key, e.1 = .text key → ¬ isOpen (overridePath key) := by
  obtain ⟨k, v⟩ := e
  -- null changes nothing, and a key that is no text names no way
  by_cases hv : v = .null
  · subst hv
    refine iff_of_false ?_ fun h => h.1 rfl
    rintro ⟨f, hf⟩
    cases (hnull k).symm.trans hf
  · by_cases hk : ∃ key, k = .text key
    · obtain ⟨key, rfl⟩ := hk
      rw [htext key v hv]
      constructor
      · rintro ⟨f, hf⟩
        refine ⟨hv, ?_⟩
        rintro key' hkey hopen
        cases hkey
        obtain ⟨s', hs'⟩ := (hset v _).mpr hopen
        cases hf.symm.trans hs'
      · rintro ⟨-, hclosed⟩
        cases hs : set s v (overridePath key) with
        | error f => exact ⟨f, rfl⟩
        | ok s' => exact (hclosed key rfl ((hset v _).mp ⟨s', hs⟩)).elim
    · rw [not_exists] at hk
      refine iff_of_true ⟨.noWay, hother k v hv hk⟩ ⟨hv, ?_⟩
      intro key hkey
      exact (hk key hkey).elim

theorem exists_overrideEntry_error_iff (m : Mapping) (e : Data × Data) :
    (∃ f, overrideEntry m e = .error f)
      ↔ e.2 ≠ .null ∧ ∀ key, e.1 = .text key → ¬ m.Open (overridePath key) := by
  apply exists_error_iff Mapping.setAt
  · exact overrideEntry_null m
  · intro key v hv
    rw [overrideEntry_text, override_eq hv]
  · intro k v hv hk
    cases v with
    | null => exact (hv rfl).elim
    | _ =>
      cases k with
      | text key => exact (hk key rfl).elim
      | _ => rfl
  · exact Mapping.exists_setAt_iff m

theorem exists_overrideIn_error_iff {root : Nat} {doc : Document}
    (h : doc.isMapping (.shared root) = true) (e : Data × Data) :
    (∃ f, overrideIn root doc e = .error f)
      ↔ e.2 ≠ .null ∧ ∀ key, e.1 = .text key → ¬ doc.Open (.shared root) (overridePath key) := by
  apply exists_error_iff fun doc v way => doc.setAt v root way
  · exact fun k => rfl
  · intro key v hv
    cases v with
    | null => exact (hv rfl).elim
    | _ => rfl
  · intro k v hv hk
    cases v with
    | null => exact (hv rfl).elim
    | _ =>
      cases k with
      | text key => exact (hk key rfl).elim
      | _ => rfl
  · exact Document.exists_setAt_iff h

/-- Whether an override of a document is blocked on its way.  Only where a collection is
    used twice do the ways differ from those of the tree. -/
def Blocked (doc : Document) (overrides : Mapping) : Prop :=
  match doc.isTree, doc.root with
  | false, .shared root =>
    Stops (overrideIn root) (fun doc way => doc.Open (.shared root) way) doc overrides
  | _, _ => Stops overrideEntry Mapping.Open doc.entries overrides

/-- Overrides of a document that is a mapping fail exactly when one of them is blocked. -/
theorem exists_overridden_error_iff {doc : Document} (h : doc.isMapping doc.root = true)
    (overrides : Mapping) :
    (∃ f, overridden doc overrides = .error f) ↔ Blocked doc overrides := by
  have hplain : (∃ f, applyOverrides doc.entries overrides = .error f)
      ↔ Stops overrideEntry Mapping.Open doc.entries overrides :=
    exists_foldlM_error_iff (P := fun _ => True) (fun _ _ _ _ _ => trivial)
      (fun m e _ => exists_overrideEntry_error_iff m e) trivial overrides
  obtain ⟨collections, root⟩ := doc
  rw [overridden, Blocked]
  cases root with
  | own d => cases Document.isTree ⟨collections, .own d⟩ <;> exact hplain
  | shared root =>
    cases Document.isTree ⟨collections, .shared root⟩ with
    | true => exact hplain
    | false =>
      -- the root stays a mapping, so every override starts in one
      have hkeeps : ∀ (doc : Document) e doc', doc.isMapping (.shared root) = true →
          overrideIn root doc e = .ok doc' → doc'.isMapping (.shared root) = true := by
        rintro doc ⟨k, v⟩ doc' hdoc hstep
        unfold overrideIn at hstep
        split at hstep
        · cases hstep
          exact hdoc
        · exact Document.isMapping_setAt hstep hdoc
        · cases hstep
      have hshared := exists_foldlM_error_iff hkeeps
        (fun doc e hdoc => exists_overrideIn_error_iff hdoc e) h overrides
      refine Iff.trans ?_ hshared
      show (∃ f, (List.foldlM (overrideIn root) _ overrides).map Document.entries = .error f) ↔ _
      cases List.foldlM (overrideIn root) (⟨collections, .shared root⟩ : Document) overrides with
      | error f => exact iff_of_true ⟨f, rfl⟩ ⟨f, rfl⟩
      | ok doc =>
        refine iff_of_false ?_ ?_
        · rintro ⟨f, hf⟩
          cases hf
        · rintro ⟨f, hf⟩
          cases hf

end Settings

end WorkflowPolicy
