/-
  WorkflowPolicy/Proofs/Workflow/Firewall.lean
  ============================================
  **When the firewall is on.**  Two passes give a workflow its agent, each on a condition
  of its own.  Together they leave it out in one case alone: the author asked for an
  older sandbox type and for no agent, and either the engine has no firewall by default
  or the wildcard lifts all restrictions (`compile_firewallFollows`).

  Without an agent the firewall is off, so its settings have no effect and the default
  image runs; with one, they are in effect as they were declared.
-/
import WorkflowPolicy.Proofs.Sandbox.Defaults
import WorkflowPolicy.Proofs.Workflow.Passes

namespace WorkflowPolicy

/-! ### Image tags -/

namespace Firewall

/-- The tag of a version: the letter that marks it as one goes, once, and nothing else. -/
def IsTagOf (tag version : Text) : Prop :=
  version = "v" ++ tag ∨ version.toList.head? ≠ some 'v' ∧ tag = version

theorem isTagOf_imageTag (version : Text) : IsTagOf (imageTag version) version := by
  unfold imageTag
  split
  · rename_i rest hrest
    left
    apply Text.toList_inj.mp
    simp [hrest]
  · rename_i hmark
    refine .inr ⟨?_, rfl⟩
    intro hhead
    obtain ⟨rest, hrest⟩ := List.head?_eq_some_iff.mp hhead
    exact hmark rest hrest

end Firewall

/-! ### Agents that are left out -/

namespace Sandbox

theorem firewallEnabled_eq_false {s : Sandbox} (henabled : s.agentDisabled = false) :
    firewallEnabled (some s) = false ↔ s.agent = none := by
  rw [firewallEnabled, Option.bind_some]
  cases hagent : s.agent with
  | none => simp
  | some a =>
    have hdisabled : a.disabled = false := by
      rw [agentDisabled, hagent] at henabled
      exact henabled
    simp [hdisabled]

/-- The author asks for an older type and for no agent. -/
def AsksForType (m : Mapping) : Prop :=
  ∃ s, ofFrontmatter m = .accepted (some s) ∧ s.agent = none ∧ s.type ≠ ""

theorem asksForType_iff {m : Mapping} (h : (request m).refusals = []) :
    AsksForType m ↔ (((request m).sandbox.map migrate).getD {}).agent = none
      ∧ (((request m).sandbox.map migrate).getD {}).type ≠ "" := by
  rw [AsksForType, ofFrontmatter_eq_guarded, h]
  cases (request m).sandbox with
  | none => simp
  | some s => simp [agent_migrate_eq_none, type_migrate_eq_empty]

end Sandbox

namespace Network

theorem allowsEverything_iff {n : Network} : n.allowsEverything = true ↔ ("*" : Text) ∈ n.allowed :=
  List.contains_iff_mem

end Network

/-! ### The firewall of a policy -/

namespace Policy

/-- How the firewall of a policy follows from what the author asked for. -/
structure FirewallFollows (settings : Settings) (m : Mapping) (p : Policy) : Prop where
  sandbox : ∃ s, p.workflow.sandbox = some s ∧ s.agentDisabled = false
  /-- The firewall is off for an older type without an agent, where nothing calls for one. -/
  off : p.firewallEnabled = false ↔ Sandbox.AsksForType m
    ∧ (p.workflow.engine.getD "" ∉ settings.firewallEngines
      ∨ ("*" : Text) ∈ p.workflow.network.allowed)
  /-- Without the firewall its settings have no effect. -/
  without : p.firewallEnabled = false →
    p.sslBumpArgs = none ∧ Firewall.IsTagOf p.imageTag settings.defaultFirewallVersion
  /-- With the firewall the declared settings have effect, or the default ones. -/
  within : p.firewallEnabled = true → ∃ f : Firewall, p.workflow.network.firewall.getD {} = f
    ∧ p.sslBumpArgs = f.sslBumpArgs
    ∧ Firewall.IsTagOf p.imageTag
        (if f.version = "" then settings.defaultFirewallVersion else f.version)

/-- **When the firewall is on**, and what it is started with. -/
theorem compile_firewallFollows {settings : Settings} {asked : Option Bool} {m : Mapping}
    {p : Policy} (h : (compile settings asked m).outcome = .ok p) :
    p.FirewallFollows settings m := by
  obtain ⟨hnone, rfl⟩ := compile_eq_ok_iff.mp h
  rw [failure?_eq_none_iff, Workflow.failure?, Option.or_eq_none_iff,
    Workflow.readingFailure?_eq_none_iff, Workflow.passFailure?_eq_none_iff] at hnone
  obtain ⟨⟨⟨-, -, hrefusals, -⟩, hsandbox, -⟩, -⟩ := hnone
  -- from here on the policy is that of one workflow `w`, and `s` is the sandbox it runs in
  obtain ⟨w, hw⟩ : ∃ w, w = Workflow.reading settings asked m := ⟨_, rfl⟩
  obtain ⟨s, hs⟩ : ∃ s, s = Workflow.finalSandbox settings w := ⟨_, rfl⟩
  have henabled : s.agentDisabled = false := by
    rw [hs, hw]
    exact Workflow.agentDisabled_finalSandbox settings hsandbox
  have hready : Workflow.ready settings w = { w with sandbox := some s } := by
    rw [hs]
    rfl
  rw [← hw, hready]
  constructor
  · exact ⟨s, rfl, henabled⟩
  · show Sandbox.firewallEnabled (some s) = false ↔ Sandbox.AsksForType m
      ∧ (w.engine.getD "" ∉ settings.firewallEngines
        ∨ ("*" : Text) ∈ w.network.allowed)
    have hrequest : w.sandbox = (Sandbox.request m).sandbox.map Sandbox.migrate := by
      rw [hw]
      rfl
    rw [Sandbox.firewallEnabled_eq_false henabled, hs, Workflow.finalSandbox_eq,
      Sandbox.agent_passes_eq_none, Sandbox.asksForType_iff hrefusals, hrequest, and_assoc]
    simp [Network.allowsEverything_iff]
  · intro hoff
    have hnone : Sandbox.effectiveFirewall (some s) (some w.network) = none := by
      rw [Sandbox.effectiveFirewall]
      exact if_neg (Bool.eq_false_iff.mp hoff)
    constructor
    · show (Sandbox.effectiveFirewall (some s) (some w.network)).bind _ = none
      rw [hnone]
      rfl
    · show Firewall.IsTagOf (Firewall.imageTagOf (Sandbox.effectiveFirewall _ _) _) _
      rw [hnone]
      exact Firewall.isTagOf_imageTag _
  · intro hon
    have hsome : Sandbox.effectiveFirewall (some s) (some w.network)
        = some (w.network.firewall.getD {}) := by
      rw [Sandbox.effectiveFirewall]
      exact if_pos hon
    refine ⟨_, rfl, ?_, ?_⟩
    · show (Sandbox.effectiveFirewall (some s) (some w.network)).bind _ = _
      rw [hsome]
      rfl
    · show Firewall.IsTagOf (Firewall.imageTagOf (Sandbox.effectiveFirewall _ _) _) _
      rw [hsome]
      exact Firewall.isTagOf_imageTag _

/-- A sandbox by its older type, and a network without restrictions. -/
def openFrontmatter : Mapping :=
  [(.text "sandbox", .map [(.text "type", .text "srt"), (.text "agent", .bool true)]),
   (.text "network",
    .map [(.text "allowed", .list [.text "*"]),
          (.text "firewall",
            .map [(.text "version", .text "v0.9"), (.text "ssl-bump", .bool true)])])]

theorem compile_firewallFollows_open :
    ∃ p, (compile {} none openFrontmatter).outcome = .ok p
      ∧ p.firewallEnabled = false ∧ p.workflow.network.firewall ≠ none
      ∧ p.FirewallFollows {} openFrontmatter := by
  have hnone : failure? {} none openFrontmatter = none := by decide +kernel
  have hok := compile_eq_ok_iff.mpr ⟨hnone, rfl⟩
  exact ⟨_, hok, by decide +kernel, by decide +kernel, compile_firewallFollows hok⟩

end Policy

end WorkflowPolicy
