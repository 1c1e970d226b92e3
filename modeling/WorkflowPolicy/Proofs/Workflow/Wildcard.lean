/-
  WorkflowPolicy/Proofs/Workflow/Wildcard.lean
  ============================================
  **No policy targets the wildcard repository.**  An action that is accepted never targets
  it, and the entry of an action for its handler names the target of the action under one
  key and nothing under the other spelling.  So neither the actions of a policy nor its
  payloads have the wildcard, however the author wrote it (`compile_avoidsWildcard`).

  Kinds without a target have no such option at all: what an author writes under either
  spelling is not read, and does not come back.
-/
import WorkflowPolicy.Proofs.SafeOutput.BlockReadBack
import WorkflowPolicy.Proofs.SafeOutput.Payload
import WorkflowPolicy.Proofs.Workflow.Passes

namespace WorkflowPolicy

/-! ### Entries for handlers -/

namespace SafeOutput

/-- The two spellings under which options may name a target repository. -/
def targetSpellings : List Text := ["target-repo", "target_repo"]

/-- A mapping of options that names the target of an action, and no other. -/
def Action.NamesTarget (a : Action) (o : Mapping) : Prop :=
  o.get? "target-repo" = a.targetRepo?.map Data.text ∧ o.get? "target_repo" = none

theorem Action.IsAccepted.namesTarget {a : Action} (h : a.IsAccepted) :
    ∃ o : Mapping, a.handlerConfig = .map o ∧ a.NamesTarget o := by
  obtain ⟨f, hf⟩ := h.normal
  refine ⟨(a.written (a.max.bind (·.limitData?))).toMapping, Action.handlerConfig_eq a, ?_, ?_⟩
  · rw [Fields.get?_toMapping]
    exact hf.get?_written_target _
  · rw [Fields.get?_toMapping]
    exact hf.get?_written_targetField _

theorem Action.IsAccepted.targetRepo?_ne {a : Action} (h : a.IsAccepted) :
    a.targetRepo? ≠ some Action.wildcardRepo := by
  obtain ⟨f, hf⟩ := h.normal
  exact hf.targetRepo?_ne_wildcard

theorem Action.NamesTarget.ne_wildcard {a : Action} {o : Mapping} (h : a.NamesTarget o)
    (ha : a.targetRepo? ≠ some Action.wildcardRepo) :
    ∀ key ∈ targetSpellings, o.get? (.text key) ≠ some (.text Action.wildcardRepo) := by
  intro key hkey hget
  rcases List.mem_pair.mp hkey with rfl | rfl
  · rw [h.1] at hget
    obtain ⟨repo, hrepo, htext⟩ := Option.map_eq_some_iff.mp hget
    obtain rfl := Data.text.inj htext
    exact ha hrepo
  · rw [h.2] at hget
    cases hget

/-- Every entry of a payload is that of an action. -/
theorem Plan.mem_payload_compile {trial : Bool} {b : Option Block} {project : Bool}
    {e : Text × Data} (h : e ∈ (Plan.compile trial b).payload project) :
    ∃ c ∈ b, ∃ a ∈ c.actions, e = (a.kind.handlerName, a.handlerConfig) := by
  cases b with
  | none => cases project <;> cases h
  | some b =>
    have hmem : e ∈ (Plan.ofBlock trial b).payload project := h
    rw [Plan.payload_ofBlock, Plan.mem_entriesFor] at hmem
    obtain ⟨a, ha, -, he⟩ := hmem
    exact ⟨b, rfl, a, ha, he⟩

end SafeOutput

/-! ### Policies -/

namespace Policy

open SafeOutput (Action targetSpellings)

/-- Neither the actions nor the payloads of a policy have the wildcard.  An entry of a
    payload has it under neither spelling, and names the target of its action. -/
structure AvoidsWildcard (p : Policy) : Prop where
  actions : ∀ b ∈ p.workflow.safeOutputs, ∀ a ∈ b.actions,
    a.targetRepo? ≠ some Action.wildcardRepo
  entries : ∀ project, ∀ e ∈ p.plan.payload project, ∃ o : Mapping, e.2 = .map o
    ∧ (∀ key ∈ targetSpellings, o.get? (.text key) ≠ some (.text Action.wildcardRepo))
    ∧ ∃ b ∈ p.workflow.safeOutputs, ∃ a ∈ b.actions, e.1 = a.kind.handlerName ∧ a.NamesTarget o

/-- **No policy targets the wildcard repository**, whatever the frontmatter, the settings
    and the strictness that is asked for. -/
theorem compile_avoidsWildcard {settings : Settings} {asked : Option Bool} {m : Mapping}
    {p : Policy} (h : (compile settings asked m).outcome = .ok p) : p.AvoidsWildcard := by
  obtain ⟨-, rfl⟩ := compile_eq_ok_iff.mp h
  have haccepted := SafeOutput.Block.isAccepted_of_mem_extract (m := m)
  constructor
  · intro b hb a ha
    exact (haccepted b hb a ha).targetRepo?_ne
  · intro project e he
    obtain ⟨b, hb, a, ha, rfl⟩ := SafeOutput.Plan.mem_payload_compile he
    obtain ⟨o, ho, htarget⟩ := (haccepted b hb a ha).namesTarget
    refine ⟨o, ho, ?_, b, hb, a, ha, rfl, htarget⟩
    exact htarget.ne_wildcard (haccepted b hb a ha).targetRepo?_ne

/-- The wildcard under the name of the field: alone for a kind with a target and for two
    kinds without one, and beside another repository under the key. -/
def spelledWildcards : Mapping :=
  [(.text "safe-outputs", .map
    [(.text "add-comment", .map [(.text "target_repo", .text "*")]),
     (.text "upload-asset", .map [(.text "target_repo", .text "*")]),
     (.text "create-project", .map [(.text "target_repo", .text "*"), (.text "max", .int 0)]),
     (.text "create-issue",
      .map [(.text "target_repo", .text "*"), (.text "target-repo", .text "o/r")])])]

theorem compile_avoidsWildcard_spelled :
    ∃ p, (compile {} none spelledWildcards).outcome = .ok p
      ∧ p.plan.handlerConfig.map (·.1) = (["create_issue", "upload_asset"] : List Text)
      ∧ p.plan.projectHandlerConfig.map (·.1) = (["create_project"] : List Text)
      ∧ p.AvoidsWildcard := by
  have hnone : failure? {} none spelledWildcards = none := by decide +kernel
  have hok := compile_eq_ok_iff.mpr ⟨hnone, rfl⟩
  exact ⟨_, hok, by decide +kernel, by decide +kernel, compile_avoidsWildcard hok⟩

end Policy

end WorkflowPolicy
