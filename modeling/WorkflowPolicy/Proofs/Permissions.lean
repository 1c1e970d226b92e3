/-
  WorkflowPolicy/Proofs/Permissions.lean
  ======================================
  **What raw permissions grant.**  A shorthand grants its level to every scope; in a
  mapping the last entry of a scope with a known level counts, and entries that are
  malformed do not.

  What is read is proper: known scopes, each of them once, and no shorthand beside
  them.  Proper permissions read back from their frontmatter value
  (`ofData?_toData`).
-/
import Mathlib.Data.List.Find
import WorkflowPolicy.Proofs.Assoc
import WorkflowPolicy.Strict

namespace WorkflowPolicy

namespace Permissions

/-- The level of an entry that names a scope with a known level. -/
def levelIn? (scope : Text) (e : Data × Data) : Option Level :=
  if e.1 = .text scope then (e.2.text?).bind Level.ofName? else none

/-- Whether raw permissions grant write access to a scope: by the shorthand, or by
    the last entry of the scope with a known level. -/
def grantsWrite (d : Data) (scope : Text) : Bool :=
  match d with
  | .text s => s == Level.write.shorthand
  | .map es => es.reverse.findSome? (levelIn? scope) == some .write
  | _ => false

/-- The first scope that raw permissions grant write access and strict mode refuses it. -/
def forbiddenScope? (d : Data) : Option Text :=
  permissionScopes.find? fun s => grantsWrite d s && !Strict.writableScopes.contains s

theorem levelIn?_eq {scope : Text} (hscope : scope ∈ permissionScopes) (e : Data × Data) :
    levelIn? scope e = ( scopeEntry? e).bind fun f => if f.1 = scope then some f.2 else none := by
  obtain ⟨k, v⟩ := e
  cases k with
  | text t =>
    cases v with
    | text name =>
      by_cases ht : t = scope
      · subst ht
        cases hlevel : Level.ofName? name <;>
          simp [levelIn?, scopeEntry?, Data.text?, hscope, hlevel]
      · by_cases hmem : t ∈ permissionScopes
        · cases hlevel : Level.ofName? name <;> simp [levelIn?, scopeEntry?, hmem, hlevel, ht]
        · simp [levelIn?, scopeEntry?, hmem, ht]
    | _ => simp [levelIn?, scopeEntry?, Data.text?]
  | _ => simp [levelIn?, scopeEntry?]

theorem get?_scopeEntries {scope : Text} (hscope : scope ∈ permissionScopes)
    (es : List (Data × Data)) :
    Assoc.get? id scope (es.filterMap scopeEntry?) = es.findSome? (levelIn? scope) := by
  induction es with
  | nil => rfl
  | cons e es ih =>
    rw [List.findSome?_cons, levelIn?_eq hscope]
    cases hentry : scopeEntry? e with
    | none =>
      rw [List.filterMap_cons_none hentry]
      exact ih
    | some f =>
      rw [List.filterMap_cons_some hentry, Assoc.get?_cons, Option.bind_some]
      by_cases hf : f.1 = scope
      · rw [if_pos hf]
        exact if_pos hf
      · rw [if_neg hf]
        exact (if_neg hf).trans ih

theorem grantsWrite_eq {scope : Text} (hscope : scope ∈ permissionScopes) (d : Data) :
    grantsWrite d scope = (ofData? d).any (·.get? scope == some .write) := by
  cases d with
  | text s =>
    have hshorthand : Level.ofShorthand? s = some .write ↔ s = Level.write.shorthand := by
      constructor
      · intro h
        have hname : (Level.write.shorthand == s) = true :=
          List.find?_some (p := fun l : Level => l.shorthand == s) h
        exact (beq_iff_eq.mp hname).symm
      · rintro rfl
        exact Level.ofShorthand?_shorthand .write
    rw [grantsWrite, ofData?, Bool.eq_iff_iff, beq_iff_eq, ← hshorthand]
    cases Level.ofShorthand? s <;> simp [get?, Fields.get?]
  | map es =>
    -- the last entry of a scope wins, so the search goes backwards
    have hget : Fields.get? (Fields.ofList (es.filterMap scopeEntry?)) scope
        = es.reverse.findSome? (levelIn? scope) := by
      rw [Fields.get?, Fields.ofList, Assoc.ofList, Assoc.get?_insertAll, ← List.filterMap_reverse,
        get?_scopeEntries hscope]
      exact Option.or_none
    rw [grantsWrite, ofData?, Option.any_some, get?, hget]
    cases es.reverse.findSome? (levelIn? scope) <;> rfl
  | _ => rfl

theorem has_write (p : Permissions) (scope : Text) :
    p.has scope .write = (p.get? scope == some .write) := by
  rw [has]
  cases p.get? scope with
  | none => rfl
  | some l => cases l <;> rfl

/-- Whatever one set grants, the other one grants as well. -/
structure Within (p q : Permissions) : Prop where
  read : ∀ scope, p.has scope .read = true → q.has scope .read = true
  write : ∀ scope, p.has scope .write = true → q.has scope .write = true

/-- The scopes are listed by the shorthand first, and looked up by their own level first. -/
theorem writeScopes_eq (p : Permissions) :
    p.writeScopes = permissionScopes.filter (p.has · .write) := by
  have hfilter : p.writeScopes
      = permissionScopes.filter fun s => p.get? s == some .write := by
    rw [writeScopes]
    split
    · -- the level for all scopes counts where a scope has none of its own
      rename_i hwrite
      refine List.filter_congr ?_
      intro s _
      rw [get?]
      cases p.scopes.get? s with
      | none => rw [hwrite]; rfl
      | some l => rfl
    · rename_i hnot
      refine List.filter_congr ?_
      intro s _
      rw [get?]
      cases p.scopes.get? s with
      | none => exact (beq_eq_false_iff_ne.mpr hnot).symm
      | some l => rfl
  rw [hfilter]
  refine List.filter_congr ?_
  intro s _
  rw [has_write]

theorem forbiddenWrite?_eq (p : Permissions) :
    Strict.forbiddenWrite? p
      = permissionScopes.find? fun s => p.has s .write && !Strict.writableScopes.contains s := by
  rw [Strict.forbiddenWrite?, writeScopes_eq, List.find?_filter]
  refine List.find?_congr ?_
  intro s _
  rw [Bool.eq_iff_iff]
  simp

theorem forbiddenWrite?_ofData? (d : Data) :
    (ofData? d).bind Strict.forbiddenWrite? = forbiddenScope? d := by
  have hscopes : forbiddenScope? d = permissionScopes.find? fun s =>
      (ofData? d).any (·.get? s == some .write) && !Strict.writableScopes.contains s := by
    refine List.find?_congr ?_
    intro s hs
    rw [grantsWrite_eq hs]
  rw [hscopes]
  cases ofData? d with
  | none => exact (List.find?_eq_none.mpr fun s _ => by simp).symm
  | some p =>
    rw [Option.bind_some, forbiddenWrite?_eq]
    refine List.find?_congr ?_
    intro s _
    rw [has_write, Option.any_some]

/-! ### Reading back -/

/-- Permissions as they are read. -/
structure IsProper (p : Permissions) : Prop where
  distinct : Assoc.Distinct id p.scopes
  known : ∀ e ∈ p.scopes, e.1 ∈ permissionScopes
  apart : p.shorthand = none ∨ p.scopes = []

theorem known_of_scope {d : Data × Data} {e : Text × Level} (h : scopeEntry? d = some e) :
    e.1 ∈ permissionScopes := by
  unfold scopeEntry? at h
  split at h
  · split at h
    · rename_i hscope
      obtain ⟨l, -, rfl⟩ := Option.map_eq_some_iff.mp h
      exact hscope
    · cases h
  · cases h

theorem isProper_ofData? {d : Data} {p : Permissions} (h : ofData? d = some p) : p.IsProper := by
  cases d with
  | text s =>
    obtain ⟨l, -, rfl⟩ := Option.map_eq_some_iff.mp h
    refine ⟨List.nodup_nil, ?_, .inr rfl⟩
    intro e he
    cases he
  | map es =>
    cases h
    refine ⟨Assoc.distinct_ofList id _, ?_, .inl rfl⟩
    intro e he
    obtain ⟨f, hf, hfe⟩ := Assoc.key_of_mem_ofList id he
    obtain ⟨d, -, hd⟩ := List.mem_filterMap.mp hf
    rw [← hfe]
    exact known_of_scope hd
  | _ => cases h

theorem scopeEntries_of_known {scopes : Fields Level}
    (h : ∀ e ∈ scopes, e.1 ∈ permissionScopes) :
    (scopes.map fun e => (Data.text e.1, Data.text e.2.name)).filterMap scopeEntry? = scopes := by
  induction scopes with
  | nil => rfl
  | cons e scopes ih =>
    have hentry : scopeEntry? (.text e.1, .text e.2.name) = some e := by
      simp [h e (by simp), scopeEntry?]
    rw [List.map_cons, List.filterMap_cons_some hentry,
      ih fun f hf => h f (List.mem_cons_of_mem _ hf)]

/-- **Permissions read back** from their frontmatter value. -/
theorem IsProper.ofData?_toData {p : Permissions} (h : p.IsProper) :
    ofData? p.toData = some p := by
  obtain ⟨shorthand, scopes⟩ := p
  have hscopes : Fields.ofList
      (((scopes.map fun e => (e.1, e.2.name)).map fun e =>
        (Data.text e.1, Data.text e.2)).filterMap scopeEntry?) = scopes := by
    rw [List.map_map]
    refine (congrArg Fields.ofList (scopeEntries_of_known h.known)).trans ?_
    exact Assoc.ofList_of_distinct id h.distinct
  -- a level for all scopes never stands beside explicit ones
  rcases h.apart with hshorthand | hempty
  · cases hshorthand
    have hdata : toData { shorthand := none, scopes := scopes }
        = .ofTextFields (scopes.map fun e => (e.1, e.2.name)) := by
      cases scopes <;> rfl
    rw [hdata, Data.ofTextFields, ofData?, hscopes]
  · cases hempty
    cases shorthand with
    | none => rfl
    | some l =>
      rw [toData, ofData?, Level.ofShorthand?_shorthand]
      rfl

theorem isOverlong_toData (p : Permissions) : isOverlong p.toData = false := by
  rw [toData]
  split
  · rfl
  · rw [Data.ofTextFields, isOverlong, List.any_map]
    exact List.any_eq_false.mpr fun _ _ => by simp [entryIsOverlong, Data.isShowable]

/-- Permissions without a forbidden scope grant no write access beyond the scopes that
    strict mode leaves open. -/
theorem has_write_of_forbiddenWrite? {p : Permissions} (h : Strict.forbiddenWrite? p = none)
    {scope : Text} (hscope : scope ∈ permissionScopes)
    (hprotected : scope ∉ Strict.writableScopes) : p.has scope .write = false := by
  rw [forbiddenWrite?_eq, List.find?_eq_none] at h
  apply Bool.eq_false_iff.mpr
  intro hwrite
  apply h scope hscope
  rw [hwrite, List.contains_eq_mem, decide_eq_false hprotected]
  rfl

end Permissions

end WorkflowPolicy
