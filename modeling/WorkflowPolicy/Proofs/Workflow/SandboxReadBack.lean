/-
  WorkflowPolicy/Proofs/Workflow/SandboxReadBack.lean
  ===================================================
  **The sandbox of a policy, written and read again.**  Its agent and its gateway come
  back, and so does everything else that has no agent beside it: the sandbox comes back in
  the form of today (`compile_sandboxComesBack`).

  The passes put an agent beside a type or settings of older workflows when restrictions
  call for one, and beside settings alone in any case.  No author can write such a sandbox,
  and these are all the sandboxes that do not come back whole (`IsCrowded`).
-/
import WorkflowPolicy.Proofs.Sandbox.Authored
import WorkflowPolicy.Proofs.Workflow.Firewall
import WorkflowPolicy.Proofs.Workflow.Recompile

namespace WorkflowPolicy

namespace Sandbox

/-! ### Older parts -/

/-- The type and the settings of older workflows. -/
def HasOlderParts (s : Sandbox) : Prop := s.type ≠ "" ∨ s.config ≠ none

theorem current_eq_iff {s : Sandbox} : s.current = s ↔ ¬ (s.agent ≠ none ∧ s.HasOlderParts) := by
  obtain ⟨agent, gateway, type, config⟩ := s
  cases agent with
  | none => simp [current]
  | some a => simp [current, HasOlderParts, eq_comm]

theorem current_current (s : Sandbox) : s.current.current = s.current := by
  rw [current_eq_iff, agent_current]
  rintro ⟨hagent, holder⟩
  rw [current_of_agent hagent] at holder
  simp [HasOlderParts] at holder

theorem gateway_current (s : Sandbox) : s.current.gateway = s.gateway := by
  by_cases h : s.agent = none
  · rw [current_of_agent_eq_none h]
  · rw [current_of_agent h]

theorem IsProper.current {s : Sandbox} (h : s.IsProper) : s.current.IsProper := by
  constructor
  · rw [agent_current]
    exact h.agent
  · rw [gateway_current]
    exact h.gateway

theorem agentDisabled_current (s : Sandbox) : s.current.agentDisabled = s.agentDisabled := by
  rw [agentDisabled, agentDisabled, agent_current]

theorem hasOlderParts_migrate {s : Sandbox} : s.migrate.HasOlderParts ↔ s.HasOlderParts := by
  rw [HasOlderParts, HasOlderParts, ne_eq, ne_eq, type_migrate_eq_empty]
  rfl

section Passes

variable (engine : Option Text) (engines : List Text) (n : Option Network) (s : Sandbox)

theorem type_passes_eq_empty : (s.passes engine engines n).type = "" ↔ s.type = "" := by
  apply passes_preserves engine engines n (P := fun t => t.type = "" ↔ s.type = "")
  · exact fun h => h
  · intro t ht
    rw [type_migrate_eq_empty, ht]
  · exact Iff.rfl

theorem config_passes : (s.passes engine engines n).config = s.config := by
  apply passes_preserves engine engines n (P := fun t => t.config = s.config)
  · exact fun h => h
  · exact fun h => h
  · rfl

/-- The passes crowd a sandbox that has older parts and no agent of its own. -/
theorem current_passes_eq_iff (h : s.current = s) :
    (s.passes engine engines n).current = s.passes engine engines n
      ↔ ¬ (s.agent = none ∧ s.HasOlderParts
        ∧ (s.type = "" ∨ engine.getD "" ∈ engines ∧ n.any (!·.allowsEverything) = true)) := by
  have holder : (s.passes engine engines n).HasOlderParts ↔ s.HasOlderParts := by
    rw [HasOlderParts, HasOlderParts, ne_eq, ne_eq, type_passes_eq_empty, config_passes]
  rw [current_eq_iff] at h
  rw [current_eq_iff, holder, ne_eq, agent_passes_eq_none]
  have hnetwork : n.any (!·.allowsEverything) = false ↔ ¬ n.any (!·.allowsEverything) = true :=
    Bool.eq_false_iff
  rw [hnetwork]
  tauto

end Passes

/-! ### What the author asks for -/

/-- The author writes in the form of older workflows, without an agent, and gets one: there
    is no type, or network restrictions call for an agent. -/
def IsCrowded (settings : Settings) (m : Mapping) (engine : Option Text) (n : Network) : Prop :=
  ∃ a, ofFrontmatter m = .accepted (some a) ∧ a.agent = none ∧ a.HasOlderParts
    ∧ (a.type = "" ∨ engine.getD "" ∈ settings.firewallEngines ∧ ("*" : Text) ∉ n.allowed)

/-- What the passes start from. -/
def requested (m : Mapping) : Sandbox := ((request m).sandbox.map migrate).getD {}

theorem isCrowded_iff {settings : Settings} {m : Mapping} {engine : Option Text} {n : Network}
    (h : (request m).refusals = []) : IsCrowded settings m engine n
      ↔ (requested m).agent = none ∧ (requested m).HasOlderParts
        ∧ ((requested m).type = "" ∨ engine.getD "" ∈ settings.firewallEngines
          ∧ (some n).any (!·.allowsEverything) = true) := by
  rw [IsCrowded, ofFrontmatter_eq_guarded, h, requested]
  cases (request m).sandbox with
  | none => simp [HasOlderParts]
  | some s =>
    simp [agent_migrate_eq_none, type_migrate_eq_empty, hasOlderParts_migrate,
      ← Network.allowsEverything_iff]

theorem current_requested (m : Mapping) : (requested m).current = requested m := by
  rw [requested]
  cases hrequest : (request m).sandbox with
  | none => rfl
  | some s => exact (isAuthored_of_request hrequest).migrate.current

end Sandbox

/-! ### The sandbox of a policy -/

namespace Policy

/-- What comes back of the sandbox of a policy. -/
structure SandboxComesBack (settings : Settings) (m : Mapping) (p : Policy) (s : Sandbox) :
    Prop where
  sandbox : p.workflow.sandbox = some s
  /-- Written and read again, the sandbox is in the form of today. -/
  read : Sandbox.ofFrontmatter [(.text "sandbox", s.toData)] = .accepted (some s.current)
  /-- Nothing more is lost after that. -/
  again : Sandbox.ofFrontmatter [(.text "sandbox", s.current.toData)] = .accepted (some s.current)
  agent : s.current.agent = s.agent
  gateway : s.current.gateway = s.gateway
  /-- It comes back whole unless the passes crowded it. -/
  whole : s.current = s ↔ ¬ Sandbox.IsCrowded settings m p.workflow.engine p.workflow.network

/-- **The sandbox of a policy comes back** with its agent and its gateway, and whole unless
    the passes put an agent beside older parts. -/
theorem compile_sandboxComesBack {settings : Settings} {asked : Option Bool} {m : Mapping}
    {p : Policy} (h : (compile settings asked m).outcome = .ok p) :
    ∃ s, SandboxComesBack settings m p s := by
  obtain ⟨hnone, rfl⟩ := compile_eq_ok_iff.mp h
  rw [failure?_eq_none_iff, Workflow.failure?, Option.or_eq_none_iff,
    Workflow.readingFailure?_eq_none_iff, Workflow.passFailure?_eq_none_iff] at hnone
  obtain ⟨⟨⟨-, -, hrefusals, -⟩, hsandbox, -⟩, -⟩ := hnone
  obtain ⟨s, hs⟩ : ∃ s, s = Workflow.finalSandbox settings (Workflow.reading settings asked m) :=
    ⟨_, rfl⟩
  have hproper : s.IsProper := by
    rw [hs]
    exact isProper_finalSandbox settings asked m
  have henabled : s.agentDisabled = false := by
    rw [hs]
    exact Workflow.agentDisabled_finalSandbox settings hsandbox
  refine ⟨s, ?_, ?_, ?_, ?_, ?_, ?_⟩
  · rw [hs]
    rfl
  · rw [Sandbox.ofFrontmatter_section]
    exact Sandbox.ofData_toData hproper henabled
  · rw [Sandbox.ofFrontmatter_section,
      Sandbox.ofData_toData hproper.current (s.agentDisabled_current.trans henabled),
      Sandbox.current_current]
  · exact Sandbox.agent_current s
  · exact Sandbox.gateway_current s
  · rw [Sandbox.isCrowded_iff hrefusals, hs, Workflow.finalSandbox_eq]
    exact Sandbox.current_passes_eq_iff _ _ _ _ (Sandbox.current_requested m)

/-- Settings of an older workflow without a type. -/
def settingsOnly : Mapping :=
  [(.text "sandbox", .map
    [(.text "config", .map [(.text "mode", .int 1)]),
     (.text "mcp", .map [(.text "port", .int 8080)])])]

theorem compile_sandboxComesBack_settings :
    ∃ p s, (compile {} none settingsOnly).outcome = .ok p ∧ s.agent ≠ none ∧ s.config ≠ none
      ∧ SandboxComesBack {} settingsOnly p s := by
  have hnone : failure? {} none settingsOnly = none := by decide +kernel
  have hok := compile_eq_ok_iff.mpr ⟨hnone, rfl⟩
  obtain ⟨s, hs⟩ := compile_sandboxComesBack hok
  obtain rfl := Option.some.inj hs.sandbox
  exact ⟨_, _, hok, by decide +kernel, by decide +kernel, hs⟩

def namedSandbox : Mapping := [(.text "sandbox", .text "awf")]

/-- The default restrictions put an agent beside the type, which does not come back. -/
theorem compile_crowdedSandbox :
    ∃ p s t, (compile {} none namedSandbox).outcome = .ok p ∧ p.workflow.sandbox = some s
      ∧ s.type = "awf" ∧ Sandbox.ofFrontmatter [(.text "sandbox", s.toData)] = .accepted (some t)
      ∧ t.type = "" := by
  have hnone : failure? {} none namedSandbox = none := by decide +kernel
  refine ⟨_, { agent := some Agent.standard, type := "awf" }, { agent := some Agent.standard },
    compile_eq_ok_iff.mpr ⟨hnone, rfl⟩, ?_, rfl, rfl, rfl⟩
  decide +kernel

end Policy

end WorkflowPolicy
