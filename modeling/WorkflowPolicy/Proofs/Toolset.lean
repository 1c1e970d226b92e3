/-
  WorkflowPolicy/Proofs/Toolset.lean
  ==================================
  **Toolsets follow the grants.**  Inference keeps the candidates that the table knows and
  whose needs are met, each occurrence for itself and in their order.  What a toolset needs
  only asks for grants, so more grants keep no candidate less, and neither does a server
  that is read-only (`compatible_follows`).

  The table may be any list of rows; of several rows with one name the first counts.
-/
import Mathlib.Data.List.Basic
import WorkflowPolicy.Proofs.Permissions
import WorkflowPolicy.Toolset

namespace WorkflowPolicy.Toolset

variable {table : List Toolset} {p q : Permissions} {readOnly : Bool} {name : Text}
  {t : Toolset}

/-! ### Rows and needs -/

/-- The row that a name stands for. -/
def IsRow (table : List Toolset) (name : Text) (t : Toolset) : Prop :=
  ∃ before after, table = before ++ t :: after ∧ t.name = name ∧ ∀ u ∈ before, u.name ≠ name

theorem find?_eq_some_iff : find? table name = some t ↔ IsRow table name t := by
  rw [find?, List.find?_eq_some_iff_append]
  constructor
  · rintro ⟨hname, before, after, htable, hbefore⟩
    refine ⟨before, after, htable, by simpa using hname, ?_⟩
    intro u hu
    simpa using hbefore u hu
  · rintro ⟨before, after, htable, hname, hbefore⟩
    refine ⟨by simpa using hname, before, after, htable, ?_⟩
    intro u hu
    simpa using hbefore u hu

/-- The scopes that a toolset needs are granted. -/
structure Covered (p : Permissions) (readOnly : Bool) (t : Toolset) : Prop where
  read : ∀ scope ∈ t.read, p.has scope .read = true
  write : readOnly = false → ∀ scope ∈ t.write, p.has scope .write = true

theorem isGranted_iff : t.isGranted p readOnly = true ↔ Covered p readOnly t := by
  rw [isGranted, Bool.and_eq_true, Bool.or_eq_true, List.all_eq_true, List.all_eq_true]
  constructor
  · rintro ⟨hread, hwrite⟩
    refine ⟨hread, ?_⟩
    rintro rfl
    exact hwrite.resolve_left Bool.false_ne_true
  · rintro ⟨hread, hwrite⟩
    refine ⟨hread, ?_⟩
    cases readOnly with
    | false => exact .inr (hwrite rfl)
    | true => exact .inl rfl

theorem Covered.mono (h : p.Within q) (ht : Covered p readOnly t) : Covered q readOnly t := by
  constructor
  · intro scope hscope
    exact h.read scope (ht.read scope hscope)
  · intro hfalse scope hscope
    exact h.write scope (ht.write hfalse scope hscope)

/-- A read-only server needs less. -/
theorem Covered.of_writable (ht : Covered p false t) : Covered p readOnly t :=
  ⟨ht.read, fun _ => ht.write rfl⟩

/-! ### Candidates -/

/-- The table has a row for the name, and what it needs is granted. -/
def IsOffered (table : List Toolset) (p : Permissions) (readOnly : Bool) (name : Text) : Prop :=
  ∃ t, IsRow table name t ∧ Covered p readOnly t

theorem isCompatible_iff :
    isCompatible table p readOnly name = true ↔ IsOffered table p readOnly name := by
  rw [isCompatible, Option.any_eq_true]
  refine exists_congr ?_
  intro t
  rw [find?_eq_some_iff, isGranted_iff]

instance : Decidable (IsOffered table p readOnly name) :=
  decidable_of_iff _ isCompatible_iff

theorem compatible_eq (table : List Toolset) (p : Permissions) (readOnly : Bool)
    (candidates : List Text) : compatible table (some p) readOnly candidates
      = candidates.filter fun name => IsOffered table p readOnly name := by
  rw [compatible]
  refine List.filter_congr ?_
  intro name _
  rw [Bool.eq_iff_iff, isCompatible_iff, decide_eq_true_iff]

/-- Where no name is offered less, no occurrence is dropped more. -/
theorem compatible_sublist {readOnly' : Bool}
    (h : ∀ name, IsOffered table p readOnly name → IsOffered table q readOnly' name)
    (candidates : List Text) :
    (compatible table (some p) readOnly candidates).Sublist
      (compatible table (some q) readOnly' candidates) := by
  rw [compatible_eq, compatible_eq]
  refine List.monotone_filter_right candidates ?_
  intro name hname
  rw [decide_eq_true_iff] at hname ⊢
  exact h name hname

/-- What is inferred from a list of candidates under a permission set, and under one that
    grants no less. -/
structure Follows (table : List Toolset) (p q : Permissions) (candidates : List Text) :
    Prop where
  /-- An occurrence is kept exactly when its name is offered. -/
  kept : ∀ readOnly, compatible table (some p) readOnly candidates
    = candidates.filter fun name => IsOffered table p readOnly name
  ordered : ∀ readOnly, (compatible table (some p) readOnly candidates).Sublist candidates
  grows : ∀ readOnly, (compatible table (some p) readOnly candidates).Sublist
    (compatible table (some q) readOnly candidates)
  readOnly : (compatible table (some p) false candidates).Sublist
    (compatible table (some p) true candidates)

/-- **Toolsets follow the grants:** with more of them, or on a server that is read-only,
    the same candidates are kept and others beside them. -/
theorem compatible_follows (h : p.Within q) (table : List Toolset) (candidates : List Text) :
    Follows table p q candidates := by
  constructor
  · intro readOnly
    exact compatible_eq table p readOnly candidates
  · intro readOnly
    exact List.filter_sublist
  · intro readOnly
    apply compatible_sublist
    rintro name ⟨t, hrow, hcovered⟩
    exact ⟨t, hrow, hcovered.mono h⟩
  · apply compatible_sublist
    rintro name ⟨t, hrow, hcovered⟩
    exact ⟨t, hrow, hcovered.of_writable⟩

/-- Contents may be read, and issues are closed. -/
def readContents : Permissions := { scopes := [("contents", .read), ("issues", .none)] }

/-- Everything may be written but contents, which may be read. -/
def writeOthers : Permissions := { shorthand := some .write, scopes := [("contents", .read)] }

def repeatedNames : List Text := ["repos", "git", "unknown", "issues", "repos", "users"]

theorem compatible_follows_others :
    readContents.Within writeOthers
      ∧ Follows builtIn readContents writeOthers repeatedNames
      ∧ compatible builtIn (some readContents) true repeatedNames
        = (["repos", "git", "repos", "users"] : List Text)
      ∧ compatible builtIn (some writeOthers) true repeatedNames
        = (["repos", "git", "issues", "repos", "users"] : List Text)
      ∧ compatible builtIn (some writeOthers) false repeatedNames
        = (["issues", "users"] : List Text) := by
  have honly : ∀ scope level, readContents.has scope level = true →
      scope = "contents" ∧ level = .read := by
    intro scope level h
    by_cases hcontents : "contents" = scope
    · subst hcontents
      cases level with
      | read => exact ⟨rfl, rfl⟩
      | write => cases h
      | none => cases h
    · by_cases hissues : "issues" = scope
      · subst hissues
        cases h
      · simp [readContents, Permissions.has, Permissions.get?, Fields.get?, Assoc.get?,
          hcontents, hissues] at h
  have hwithin : readContents.Within writeOthers := by
    constructor
    · intro scope hscope
      obtain ⟨rfl, -⟩ := honly scope .read hscope
      rfl
    · intro scope hscope
      cases (honly scope .write hscope).2
  refine ⟨hwithin, compatible_follows hwithin builtIn repeatedNames, ?_, ?_, ?_⟩
  all_goals decide +kernel

end WorkflowPolicy.Toolset
