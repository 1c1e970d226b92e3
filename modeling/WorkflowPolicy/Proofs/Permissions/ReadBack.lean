/-
  WorkflowPolicy/Proofs/Permissions/ReadBack.lean
  ===============================================
  **Permission sets, written and read again.**  A shorthand has no place in the mapping that
  explicit scopes are written as, so beside them it is lost.  What is read grants the
  same for exactly the scopes whose level is written (`Shows`), and nothing for the others:
  no scope gains anything, the scopes with write access stay the same exactly if all of
  them show, and so does the verdict of strict mode exactly if the scope that it complains
  about shows (`exists_readsBack`).
-/
import WorkflowPolicy.Proofs.Permissions

namespace WorkflowPolicy.Permissions

variable {p : Permissions} {scope : Text}

/-! ### What the written form says -/

/-- Permissions as they may be given to the model with scopes that are known. -/
structure IsGiven (p : Permissions) : Prop where
  distinct : Assoc.Distinct id p.scopes
  known : ∀ e ∈ p.scopes, e.1 ∈ permissionScopes

/-- The frontmatter value says what a scope is granted: there is no shorthand, or it stands
    alone, or the scope has a level of its own. -/
def Shows (p : Permissions) (scope : Text) : Prop :=
  p.shorthand = none ∨ p.scopes = [] ∨ p.scopes.get? scope ≠ none

/-- What the frontmatter value grants. -/
def written (p : Permissions) : Permissions :=
  if p.scopes = [] then p else { scopes := p.scopes }

theorem toData_written (p : Permissions) : p.written.toData = p.toData := by
  obtain ⟨shorthand, scopes⟩ := p
  cases scopes with
  | nil => rfl
  | cons e scopes => cases shorthand <;> rfl

theorem IsGiven.isProper_written (h : p.IsGiven) : p.written.IsProper := by
  rw [written]
  split
  · rename_i hempty
    exact ⟨h.distinct, h.known, .inr hempty⟩
  · exact ⟨h.distinct, h.known, .inl rfl⟩

theorem get?_written (p : Permissions) (scope : Text) :
    p.written.get? scope = if p.scopes = [] then p.get? scope else p.scopes.get? scope := by
  rw [written]
  split
  · rfl
  · rw [get?]
    cases p.scopes.get? scope <;> rfl

/-- A scope keeps its grant exactly when the grant shows. -/
theorem get?_written_eq_iff : p.written.get? scope = p.get? scope ↔ p.Shows scope := by
  rw [get?_written, Shows]
  by_cases hempty : p.scopes = []
  · simp [hempty]
  · rw [if_neg hempty, get?]
    cases p.scopes.get? scope with
    | some l => simp
    | none => simp [hempty, eq_comm]

theorem get?_written_of_not_shows (h : ¬ p.Shows scope) : p.written.get? scope = none := by
  rw [Shows, not_or, not_or, not_not] at h
  obtain ⟨-, hempty, hnone⟩ := h
  rw [get?_written, if_neg hempty, hnone]

/-! ### Grants -/

theorem has_congr {q : Permissions} (h : p.get? scope = q.get? scope) (l : Level) :
    p.has scope l = q.has scope l := by
  rw [has, has, h]

/-- What is granted in the written form shows, and was granted before. -/
theorem has_written_iff (l : Level) :
    p.written.has scope l = true ↔ p.has scope l = true ∧ p.Shows scope := by
  by_cases hshows : p.Shows scope
  · rw [has_congr (get?_written_eq_iff.mpr hshows)]
    exact (and_iff_left hshows).symm
  · rw [has, get?_written_of_not_shows hshows]
    simp [hshows]

theorem written_within (p : Permissions) : p.written.Within p := by
  constructor
  · intro scope h
    exact (has_written_iff .read).mp h |>.1
  · intro scope h
    exact (has_written_iff .write).mp h |>.1

/-- The scopes with write access are the same if every one of them shows. -/
theorem writeScopes_written_eq_iff : p.written.writeScopes = p.writeScopes
    ↔ ∀ scope ∈ permissionScopes, p.has scope .write = true → p.Shows scope := by
  rw [writeScopes_eq, writeScopes_eq]
  constructor
  · intro heq scope hscope hwrite
    have hmem : scope ∈ permissionScopes.filter (p.written.has · .write) := by
      rw [heq]
      exact List.mem_filter.mpr ⟨hscope, hwrite⟩
    exact ((has_written_iff .write).mp (List.mem_filter.mp hmem).2).2
  · intro hshows
    refine List.filter_congr ?_
    intro scope hscope
    rw [Bool.eq_iff_iff, has_written_iff]
    exact and_iff_left_of_imp (hshows scope hscope)

/-! ### Strict mode -/

/-- The complaint of strict mode is the same if its scope shows. -/
theorem forbiddenWrite?_written_eq_iff :
    Strict.forbiddenWrite? p.written = Strict.forbiddenWrite? p
      ↔ ∀ scope ∈ Strict.forbiddenWrite? p, p.Shows scope := by
  rw [forbiddenWrite?_eq, forbiddenWrite?_eq]
  constructor
  · intro heq scope hscope
    have hfound := List.find?_some (heq.trans hscope)
    rw [Bool.and_eq_true] at hfound
    exact ((has_written_iff .write).mp hfound.1).2
  · intro hshows
    -- a scope that is refused in the written form was refused before
    have hbefore : ∀ scope,
        (p.written.has scope .write && !Strict.writableScopes.contains scope) = true →
          (p.has scope .write && !Strict.writableScopes.contains scope) = true := by
      intro scope h
      rw [Bool.and_eq_true] at h ⊢
      exact ⟨p.written_within.write scope h.1, h.2⟩
    cases hfirst : permissionScopes.find? fun s =>
        p.has s .write && !Strict.writableScopes.contains s with
    | none =>
      rw [List.find?_eq_none] at hfirst ⊢
      intro scope hscope h
      exact hfirst scope hscope (hbefore scope h)
    | some scope =>
      have hshown : p.Shows scope := hshows scope hfirst
      obtain ⟨hscope, before, after, hscopes, hearlier⟩ := List.find?_eq_some_iff_append.mp hfirst
      rw [List.find?_eq_some_iff_append]
      refine ⟨?_, before, after, hscopes, ?_⟩
      · rw [Bool.and_eq_true] at hscope ⊢
        exact ⟨(has_written_iff .write).mpr ⟨hscope.1, hshown⟩, hscope.2⟩
      · intro earlier hmem
        have hnot := hearlier earlier hmem
        rw [Bool.not_eq_true'] at hnot ⊢
        rw [Bool.eq_false_iff] at hnot ⊢
        exact fun h => hnot (hbefore earlier h)

theorem writeViolation_injective : Function.Injective Strict.writeViolation := by
  intro scope scope' h
  have hfield : "permissions." ++ scope = "permissions." ++ scope' := congrArg Violation.field h
  exact (Text.append_right_inj _).mp hfield

/-- Strict mode looks at nothing in the permissions but the scope that it complains about. -/
theorem verdict_congr_iff {q : Permissions} :
    (∀ n tools servers, Strict.violation? (some p) n tools servers
        = Strict.violation? (some q) n tools servers)
      ↔ Strict.forbiddenWrite? p = Strict.forbiddenWrite? q := by
  -- nothing else is wrong with a workflow without domains, tools and servers
  have halone : ∀ r : Permissions, Strict.violation? (some r) (some {}) [] []
      = (Strict.forbiddenWrite? r).map Strict.writeViolation := by
    intro r
    exact Option.or_none
  constructor
  · intro h
    have hsame := h (some {}) [] []
    rw [halone, halone] at hsame
    exact Option.map_injective writeViolation_injective hsame
  · intro h n tools servers
    have hpermissions : Strict.permissionsViolation? (some p)
        = Strict.permissionsViolation? (some q) :=
      congrArg (Option.map Strict.writeViolation) h
    rw [Strict.violation?, Strict.violation?, hpermissions]

/-! ### Reading back -/

/-- What is read from the frontmatter value of a permission set. -/
structure ReadsBack (p q : Permissions) : Prop where
  read : ofData? p.toData = some q
  get?_eq_iff : ∀ scope, q.get? scope = p.get? scope ↔ p.Shows scope
  within : q.Within p
  writeScopes_eq_iff : q.writeScopes = p.writeScopes
    ↔ ∀ scope ∈ permissionScopes, p.has scope .write = true → p.Shows scope
  verdict_eq_iff : (∀ n tools servers, Strict.violation? (some q) n tools servers
      = Strict.violation? (some p) n tools servers)
    ↔ ∀ scope ∈ Strict.forbiddenWrite? p, p.Shows scope

/-- **Written and read again**, a permission set grants what shows in its written form. -/
theorem exists_readsBack (h : p.IsGiven) : ∃ q, ReadsBack p q := by
  refine ⟨p.written, ?_, ?_, ?_, ?_, ?_⟩
  · rw [← toData_written]
    exact h.isProper_written.ofData?_toData
  · intro scope
    exact get?_written_eq_iff
  · exact p.written_within
  · exact writeScopes_written_eq_iff
  · rw [verdict_congr_iff]
    exact forbiddenWrite?_written_eq_iff

/-- Everything may be written but contents. -/
def writeButContents : Permissions := { shorthand := some .write, scopes := [("contents", .read)] }

/-- Beside a scope the shorthand is lost, and with it every grant that came from it. -/
theorem toData_losesShorthand :
    writeButContents.IsGiven
      ∧ ∃ q, ofData? writeButContents.toData = some q
        ∧ writeButContents.get? "issues" = some .write ∧ q.get? "issues" = none
        ∧ ("issues" : Text) ∈ writeButContents.writeScopes ∧ q.writeScopes = []
        ∧ Strict.forbiddenWrite? writeButContents = some ("deployments" : Text)
        ∧ Strict.forbiddenWrite? q = none := by
  have hgiven : writeButContents.IsGiven := by
    constructor
    · simp [Assoc.Distinct, writeButContents]
    · decide
  refine ⟨hgiven, { scopes := [("contents", .read)] }, rfl, rfl, rfl, ?_, ?_, ?_, ?_⟩
  all_goals decide +kernel

/-- The same with a scope that may be written by itself, too. -/
def writeButContentsAndIssues : Permissions :=
  { shorthand := some .write, scopes := [("contents", .read), ("issues", .write)] }

theorem exists_readsBack_mixed :
    writeButContentsAndIssues.IsGiven
      ∧ ∃ q, ReadsBack writeButContentsAndIssues q ∧ q.get? "issues" = some .write
        ∧ q.get? "pages" = none := by
  have hgiven : writeButContentsAndIssues.IsGiven := by
    constructor
    · simp [Assoc.Distinct, writeButContentsAndIssues]
    · decide
  have hdata : ofData? writeButContentsAndIssues.toData
      = some { scopes := [("contents", .read), ("issues", .write)] } := by
    decide +kernel
  obtain ⟨q, hq⟩ := exists_readsBack hgiven
  obtain rfl := Option.some.inj (hdata.symm.trans hq.read)
  exact ⟨hgiven, _, hq, rfl, rfl⟩

end WorkflowPolicy.Permissions
