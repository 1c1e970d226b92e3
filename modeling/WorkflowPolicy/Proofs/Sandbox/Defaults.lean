/-
  WorkflowPolicy/Proofs/Sandbox/Defaults.lean
  ===========================================
  **What the passes over a sandbox leave.**  Retired types are replaced, network
  restrictions call for an agent, and an empty request gets one.  After the passes a
  sandbox is settled: every one of them leaves it as it is (`isSettled_passes`,
  `IsSettled.passes_eq`).

  An agent is missing at the end only where an older type was asked for in its place and
  no restriction called for one (`agent_passes_eq_none`).  No pass turns an agent off, and
  none makes a sandbox break a rule (`violation?_passes`).
-/
import WorkflowPolicy.Policy
import WorkflowPolicy.Proofs.Sandbox.ReadBack

namespace WorkflowPolicy

namespace Sandbox

/-! ### Retired types -/

theorem currentType_currentType (type : Text) :
    currentType (currentType type) = currentType type := by
  by_cases h : type ∈ retiredSandboxTypes
  · rw [currentType_of_mem h]
    decide
  · rw [currentType_of_notMem h, currentType_of_notMem h]

theorem migrate_standard : Agent.standard.migrate = Agent.standard := by
  decide

theorem migrate_migrate_agent (a : Agent) : a.migrate.migrate = a.migrate := by
  cases hdisabled : a.disabled with
  | true => simp [Agent.migrate, hdisabled]
  | false => simp [Agent.migrate, hdisabled, currentType_currentType]

theorem migrate_migrate (s : Sandbox) : s.migrate.migrate = s.migrate := by
  have hagent : Agent.migrate ∘ Agent.migrate = Agent.migrate := funext migrate_migrate_agent
  simp [migrate, currentType_currentType, hagent]

theorem agent_migrate_eq_none {s : Sandbox} : s.migrate.agent = none ↔ s.agent = none := by
  simp [migrate]

theorem type_migrate_eq_empty {s : Sandbox} : s.migrate.type = "" ↔ s.type = "" :=
  currentType_eq_empty

theorem agentDisabled_migrate (s : Sandbox) : s.migrate.agentDisabled = s.agentDisabled := by
  rw [agentDisabled, agentDisabled, migrate]
  cases s.agent with
  | none => rfl
  | some a =>
    show a.migrate.disabled = a.disabled
    rw [Agent.migrate]
    cases hdisabled : a.disabled <;> simp [hdisabled]

/-! ### Rules -/

theorem violation?_eq_none_iff {s : Sandbox} :
    s.violation? = none ↔ s.agentDisabled = false ∧ (∀ a ∈ s.agent, isUnknownType a.kind = false)
      ∧ isUnknownType s.type = false := by
  rw [violation?]
  cases s.agentDisabled with
  | true => simp
  | false =>
    cases s.agent with
    | none => cases isUnknownType s.type <;> simp
    | some a => cases h : isUnknownType a.kind <;> cases isUnknownType s.type <;> simp [h]

theorem enabled_of_violation? {s : Sandbox} (h : s.violation? = none) :
    s.agentDisabled = false :=
  (violation?_eq_none_iff.mp h).1

theorem unknownType?_eq_none {field type : Text} (h : isUnknownType type = false) :
    unknownType? field type = none := by
  by_cases hempty : type = ""
  · exact if_pos (.inl hempty)
  · apply unknownType?_of_mem
    by_contra hsupported
    rw [isUnknownType_iff.mpr ⟨hempty, hsupported⟩] at h
    cases h

theorem violation?_migrate_eq_none {s : Sandbox} (h : s.violation? = none) :
    s.migrate.violation? = none := by
  obtain ⟨henabled, hkind, htype⟩ := violation?_eq_none_iff.mp h
  rw [violation?_migrate henabled, unknownType?_eq_none htype, Option.or_none]
  apply Option.bind_eq_none_iff.mpr
  intro a ha
  exact unknownType?_eq_none (hkind a ha)

/-! ### One pass -/

/-- A sandbox with the agent that runs when nothing else is asked for. -/
def withStandard (s : Sandbox) : Sandbox := { s with agent := some Agent.standard }

theorem violation?_withStandard {s : Sandbox} (h : s.violation? = none) :
    s.withStandard.violation? = none := by
  rw [violation?_eq_none_iff] at h ⊢
  refine ⟨rfl, ?_, h.2.2⟩
  intro a ha
  obtain rfl := Option.some.inj ha
  decide

theorem migrate_withStandard (s : Sandbox) : s.withStandard.migrate = s.migrate.withStandard := by
  simp [withStandard, migrate, migrate_standard]

/-- A type of its own or an agent, disabled or not, keeps a sandbox from the default. -/
theorem withDefaults_eq (s : Sandbox) :
    withDefaults (some s)
      = if s.agent = none ∧ s.type = "" then s.migrate.withStandard else s.migrate := by
  have hdisabled : s.agent = none → s.agentDisabled = false := by
    intro hagent
    rw [agentDisabled, hagent]
    rfl
  by_cases hagent : s.agent = none
  · by_cases htype : s.type = ""
    · have hkeeps : s.migrate.type = "" := type_migrate_eq_empty.mpr htype
      simp [withDefaults, agentDisabled_migrate, hdisabled hagent, hkeeps, hagent, htype,
        agent_migrate_eq_none.mpr hagent, withStandard]
    · have hkeeps : s.migrate.type ≠ "" := fun h => htype (type_migrate_eq_empty.mp h)
      simp [withDefaults, hkeeps, htype]
  · obtain ⟨a, ha⟩ := Option.ne_none_iff_exists'.mp hagent
    have hkeeps : s.migrate.agent.isSome = true := by simp [migrate, ha]
    simp [withDefaults, hkeeps, hagent]

section Passes

variable (engine : Option Text) (engines : List Text) (n : Option Network)

theorem wantsFirewall_eq_true {s : Sandbox} :
    s.wantsFirewall engine engines n = true ↔ engine.getD "" ∈ engines
      ∧ n.any (!·.allowsEverything) = true ∧ s.agent = none := by
  simp [wantsFirewall, and_assoc]

theorem wantsFirewall_migrate (s : Sandbox) :
    s.migrate.wantsFirewall engine engines n = s.wantsFirewall engine engines n := by
  simp [wantsFirewall, migrate]

/-! ### All passes -/

/-- The passes that follow reading. -/
def passes (s : Sandbox) : Sandbox := withDefaults (some (withFirewall engine engines n s))

/-- A sandbox that the passes leave as it is. -/
structure IsSettled (s : Sandbox) : Prop where
  types : s.migrate = s
  chosen : s.agent = none → s.type ≠ ""
  firewall : s.wantsFirewall engine engines n = false

variable {engine engines n}

theorem IsSettled.passes_eq {s : Sandbox} (h : s.IsSettled engine engines n) :
    s.passes engine engines n = s := by
  have hfirewall : withFirewall engine engines n s = s := by
    rw [withFirewall, h.firewall]
    rfl
  rw [passes, hfirewall, withDefaults_eq, if_neg fun hempty => h.chosen hempty.1 hempty.2, h.types]

variable (engine engines n)

theorem isSettled_withStandard {s : Sandbox} (h : s.migrate = s) :
    s.withStandard.IsSettled engine engines n := by
  refine ⟨?_, ?_, ?_⟩
  · rw [migrate_withStandard, h]
  · intro hagent
    cases hagent
  · simp [wantsFirewall, withStandard]

/-- **The passes settle a sandbox.** -/
theorem isSettled_passes (s : Sandbox) :
    (s.passes engine engines n).IsSettled engine engines n := by
  rw [passes, withDefaults_eq]
  split
  · exact isSettled_withStandard engine engines n (migrate_migrate _)
  · rename_i hkept
    rw [withFirewall] at hkept ⊢
    -- the firewall adds the standard agent, or there is nothing left to add
    by_cases hwants : s.wantsFirewall engine engines n = true
    · rw [if_pos hwants]
      have hstandard := migrate_withStandard s
      rw [withStandard] at hstandard
      rw [hstandard]
      exact isSettled_withStandard engine engines n (migrate_migrate s)
    · rw [if_neg hwants] at hkept ⊢
      refine ⟨migrate_migrate s, ?_, ?_⟩
      · intro hagent htype
        exact hkept ⟨agent_migrate_eq_none.mp hagent, type_migrate_eq_empty.mp htype⟩
      · rw [wantsFirewall_migrate]
        exact Bool.eq_false_iff.mpr hwants

/-- An agent is missing after the passes when a type was asked for in its place and no
    restriction called for one. -/
theorem agent_passes_eq_none (s : Sandbox) :
    (s.passes engine engines n).agent = none ↔ s.agent = none ∧ s.type ≠ ""
      ∧ (engine.getD "" ∉ engines ∨ n.any (!·.allowsEverything) = false) := by
  have hwants : s.wantsFirewall engine engines n = true ↔ _ :=
    wantsFirewall_eq_true engine engines n
  rw [passes, withDefaults_eq, withFirewall]
  by_cases h : s.wantsFirewall engine engines n = true
  · -- the network calls for an agent, which is then there
    obtain ⟨hengine, hnetwork, -⟩ := hwants.mp h
    simp [h, hengine, hnetwork, migrate]
  · rw [if_neg h]
    by_cases hagent : s.agent = none
    · have hnot : engine.getD "" ∉ engines ∨ n.any (!·.allowsEverything) = false := by
        by_cases hengine : engine.getD "" ∈ engines
        · right
          apply Bool.eq_false_iff.mpr
          intro hnetwork
          exact h (hwants.mpr ⟨hengine, hnetwork, hagent⟩)
        · exact .inl hengine
      by_cases htype : s.type = ""
      · simp [hagent, htype, withStandard]
      · simp [hagent, htype, hnot, agent_migrate_eq_none]
    · simp [hagent, agent_migrate_eq_none]

/-- All that passes do is put the standard agent in and replace retired types. -/
theorem passes_preserves {P : Sandbox → Prop} (hstandard : ∀ {s}, P s → P s.withStandard)
    (hmigrate : ∀ {s}, P s → P s.migrate) {s : Sandbox} (h : P s) :
    P (s.passes engine engines n) := by
  have hfirewall : P (withFirewall engine engines n s) := by
    rw [withFirewall]
    split
    · exact hstandard h
    · exact h
  rw [passes, withDefaults_eq]
  split
  · exact hstandard (hmigrate hfirewall)
  · exact hmigrate hfirewall

/-- No pass makes a sandbox break a rule. -/
theorem violation?_passes {s : Sandbox} (h : s.violation? = none) :
    (s.passes engine engines n).violation? = none :=
  passes_preserves engine engines n (P := fun s => s.violation? = none) violation?_withStandard
    violation?_migrate_eq_none h

/-! ### Sandboxes without their older parts -/

theorem isProper_withStandard {s : Sandbox} (h : s.IsProper) : s.withStandard.IsProper := by
  refine ⟨?_, h.gateway⟩
  intro a ha
  obtain rfl := Option.some.inj ha
  exact List.nodup_nil

theorem isProper_migrate {s : Sandbox} (h : s.IsProper) : s.migrate.IsProper := by
  refine ⟨?_, h.gateway⟩
  intro a ha
  obtain ⟨b, hb, rfl⟩ := Option.map_eq_some_iff.mp ha
  have henv : b.migrate.env = b.env := by
    rw [Agent.migrate]
    split <;> rfl
  rw [henv]
  exact h.agent b hb

/-- What the passes settle stays settled without its older parts. -/
theorem IsSettled.current {s : Sandbox} (h : s.IsSettled engine engines n) :
    s.current.IsSettled engine engines n := by
  by_cases hagent : s.agent = none
  · rw [current_of_agent_eq_none hagent]
    exact h
  · rw [current_of_agent hagent]
    refine ⟨?_, fun hnone => (hagent hnone).elim, h.firewall⟩
    have hmigrated : s.agent.map Agent.migrate = s.agent := congrArg Sandbox.agent h.types
    simp only [migrate, hmigrated, currentType_eq_empty.mpr]

theorem violation?_current {s : Sandbox} (h : s.violation? = none) :
    s.current.violation? = none := by
  by_cases hagent : s.agent = none
  · rw [current_of_agent_eq_none hagent]
    exact h
  · obtain ⟨henabled, hkind, -⟩ := violation?_eq_none_iff.mp h
    rw [current_of_agent hagent]
    exact violation?_eq_none_iff.mpr ⟨henabled, hkind, rfl⟩

end Passes

end Sandbox

/-! ### The sandbox of a workflow -/

namespace Workflow

theorem finalSandbox_eq (settings : Settings) (w : Workflow) :
    finalSandbox settings w
      = (w.sandbox.getD {}).passes w.engine settings.firewallEngines (some w.network) := rfl

/-- What holds of the sandbox that was read, if there is one, holds of the one that runs. -/
theorem finalSandbox_preserves {P : Sandbox → Prop} (hempty : P {})
    (hstandard : ∀ {s : Sandbox}, P s → P s.withStandard)
    (hmigrate : ∀ {s : Sandbox}, P s → P s.migrate) {settings : Settings} {w : Workflow}
    (h : ∀ s ∈ w.sandbox, P s) : P (finalSandbox settings w) := by
  rw [finalSandbox_eq]
  apply Sandbox.passes_preserves (P := P) _ _ _ hstandard hmigrate
  cases hsandbox : w.sandbox with
  | none => exact hempty
  | some s => exact h s hsandbox

theorem violation?_getD {x : Option Sandbox} (h : x.bind Sandbox.violation? = none) :
    (x.getD {}).violation? = none := by
  cases x with
  | none => rfl
  | some s => exact h

/-- No pass turns a sandbox off that was read without a rule broken. -/
theorem agentDisabled_finalSandbox (settings : Settings) {w : Workflow}
    (h : w.sandbox.bind Sandbox.violation? = none) :
    (finalSandbox settings w).agentDisabled = false :=
  Sandbox.enabled_of_violation? (Sandbox.violation?_passes _ _ _ (violation?_getD h))

end Workflow

end WorkflowPolicy
