/-
  WorkflowPolicy/Proofs/Sandbox/AnyOrder.lean
  ===========================================
  **The passes over a sandbox, in any order.**  Each pass settles its own concern: once
  is enough, and no pass waits for another (`Pass.run_run`, `Pass.run_comm`).  Two of them
  put in the same standard agent, but only where none is, and replacing retired types
  neither adds an agent nor empties a type, so no pass can tell which came first.

  What an author asked for is framed (`Sandbox.Keeps`): of an agent that is there, a pass
  rewrites a retired identifier or type and nothing else, and so does any run of passes
  (`Pass.keeps_runAll`).
-/
import WorkflowPolicy.Proofs.Sandbox.Defaults

namespace WorkflowPolicy

/-! ### What passes leave alone -/

/-- A type, or the default one in place of a retired one. -/
def IsRenaming (type type' : Text) : Prop :=
  type' = type ∨ type ∈ retiredSandboxTypes ∧ type' = defaultSandboxType

theorem isRenaming_currentType (type : Text) : IsRenaming type (currentType type) := by
  by_cases h : type ∈ retiredSandboxTypes
  · right
    exact ⟨h, Sandbox.currentType_of_mem h⟩
  · left
    exact Sandbox.currentType_of_notMem h

theorem IsRenaming.trans {a b c : Text} (hab : IsRenaming a b) (hbc : IsRenaming b c) :
    IsRenaming a c := by
  rcases hab with rfl | ⟨hretired, rfl⟩
  · exact hbc
  · rcases hbc with rfl | ⟨hdefault, -⟩
    · exact .inr ⟨hretired, rfl⟩
    · -- the default type is not retired itself
      exact absurd hdefault (by decide)

/-- An agent after some passes: its settings are those of the author, and a disabled one
    has not been touched at all. -/
structure Agent.Keeps (a b : Agent) : Prop where
  id : IsRenaming a.id b.id
  type : IsRenaming a.type b.type
  disabled : b.disabled = a.disabled
  command : b.command = a.command
  args : b.args = a.args
  env : b.env = a.env
  mounts : b.mounts = a.mounts
  config : b.config = a.config
  off : a.disabled = true → b = a

namespace Agent

theorem Keeps.refl (a : Agent) : a.Keeps a := by
  constructor
  · exact .inl rfl
  · exact .inl rfl
  all_goals simp

theorem Keeps.trans {a b c : Agent} (hab : a.Keeps b) (hbc : b.Keeps c) : a.Keeps c := by
  constructor
  · exact hab.id.trans hbc.id
  · exact hab.type.trans hbc.type
  · rw [hbc.disabled, hab.disabled]
  · rw [hbc.command, hab.command]
  · rw [hbc.args, hab.args]
  · rw [hbc.env, hab.env]
  · rw [hbc.mounts, hab.mounts]
  · rw [hbc.config, hab.config]
  · intro hoff
    obtain rfl := hab.off hoff
    exact hbc.off hoff

theorem keeps_migrate (a : Agent) : a.Keeps a.migrate := by
  cases hoff : a.disabled with
  | true =>
    have hsame : a.migrate = a := if_pos hoff
    rw [hsame]
    exact Keeps.refl a
  | false =>
    have hmigrated : a.migrate = { a with id := currentType a.id, type := currentType a.type } := by
      simp [migrate, hoff]
    rw [hmigrated]
    constructor
    · exact isRenaming_currentType a.id
    · exact isRenaming_currentType a.type
    all_goals simp [hoff]

/-- Nothing in the standard agent is retired. -/
theorem Keeps.eq_standard {b : Agent} (h : standard.Keeps b) : b = standard := by
  have hid : b.id = standard.id := by
    rcases h.id with hid | ⟨hretired, -⟩
    · exact hid
    · exact absurd hretired (by decide)
  have htype : b.type = standard.type := by
    rcases h.type with htype | ⟨hretired, -⟩
    · exact htype
    · exact absurd hretired (by decide)
  obtain ⟨id, type, disabled, command, args, env, mounts, config⟩ := b
  obtain rfl : id = standard.id := hid
  obtain rfl : type = standard.type := htype
  obtain rfl : disabled = standard.disabled := h.disabled
  obtain rfl : command = standard.command := h.command
  obtain rfl : args = standard.args := h.args
  obtain rfl : env = standard.env := h.env
  obtain rfl : mounts = standard.mounts := h.mounts
  obtain rfl : config = standard.config := h.config
  rfl

end Agent

namespace Sandbox

/-- A sandbox after some passes: the gateway and the settings of older workflows are
    those of the author, an agent that was there is there still, and where there was none
    only the standard one may have come. -/
structure Keeps (s t : Sandbox) : Prop where
  gateway : t.gateway = s.gateway
  config : t.config = s.config
  type : IsRenaming s.type t.type
  agent : ∀ a ∈ s.agent, ∃ b, t.agent = some b ∧ a.Keeps b
  added : s.agent = none → t.agent = none ∨ t.agent = some Agent.standard

theorem Keeps.refl (s : Sandbox) : s.Keeps s := by
  refine ⟨rfl, rfl, .inl rfl, ?_, .inl⟩
  intro a ha
  exact ⟨a, ha, Agent.Keeps.refl a⟩

theorem Keeps.trans {s t u : Sandbox} (hst : s.Keeps t) (htu : t.Keeps u) : s.Keeps u := by
  constructor
  · rw [htu.gateway, hst.gateway]
  · rw [htu.config, hst.config]
  · exact hst.type.trans htu.type
  · intro a ha
    obtain ⟨b, hb, hab⟩ := hst.agent a ha
    obtain ⟨c, hc, hbc⟩ := htu.agent b hb
    exact ⟨c, hc, hab.trans hbc⟩
  · intro hnone
    rcases hst.added hnone with ht | ht
    · exact htu.added ht
    · obtain ⟨b, hb, hstandard⟩ := htu.agent _ ht
      right
      rw [hb, hstandard.eq_standard]

theorem keeps_migrate (s : Sandbox) : s.Keeps s.migrate := by
  refine ⟨rfl, rfl, isRenaming_currentType s.type, ?_, ?_⟩
  · intro a ha
    refine ⟨a.migrate, ?_, a.keeps_migrate⟩
    rw [migrate, Option.mem_def.mp ha]
    rfl
  · intro hnone
    exact .inl (agent_migrate_eq_none.mpr hnone)

/-- The standard agent takes the place of none. -/
theorem keeps_withStandard {s : Sandbox} (h : s.agent = none) : s.Keeps s.withStandard := by
  refine ⟨rfl, rfl, .inl rfl, ?_, ?_⟩
  · intro a ha
    rw [h] at ha
    cases ha
  · intro _
    exact .inr rfl

/-! ### Two passes -/

theorem withDefaults_none : withDefaults none = withDefaults (some {}) := by
  decide

theorem withDefaults_migrate (s : Sandbox) :
    withDefaults (some s.migrate) = withDefaults (some s) := by
  simp only [withDefaults_eq, migrate_migrate, agent_migrate_eq_none, type_migrate_eq_empty]

theorem migrate_withDefaults (s : Sandbox) :
    (withDefaults (some s)).migrate = withDefaults (some s) := by
  rw [withDefaults_eq]
  split
  · rw [migrate_withStandard, migrate_migrate]
  · exact migrate_migrate s

theorem withDefaults_of_agent {s : Sandbox} (h : s.agent ≠ none) :
    withDefaults (some s) = s.migrate := by
  rw [withDefaults_eq, if_neg fun hempty => h hempty.1]

theorem withDefaults_withDefaults (s : Sandbox) :
    withDefaults (some (withDefaults (some s))) = withDefaults (some s) := by
  rw [withDefaults_eq s]
  split
  · rename_i hempty
    rw [withDefaults_of_agent (by simp [withStandard]), migrate_withStandard, migrate_migrate]
  · rename_i hkept
    rw [withDefaults_migrate, withDefaults_eq, if_neg hkept]

section Firewall

variable (engine : Option Text) (engines : List Text) (n : Option Network)

theorem withFirewall_eq (s : Sandbox) : s.withFirewall engine engines n
    = if s.wantsFirewall engine engines n = true then s.withStandard else s := rfl

theorem withFirewall_of_agent {s : Sandbox} (h : s.agent ≠ none) :
    s.withFirewall engine engines n = s := by
  rw [withFirewall_eq, if_neg]
  intro hwants
  exact h ((wantsFirewall_eq_true engine engines n).mp hwants).2.2

theorem withFirewall_migrate (s : Sandbox) :
    s.migrate.withFirewall engine engines n = (s.withFirewall engine engines n).migrate := by
  rw [withFirewall_eq, withFirewall_eq, wantsFirewall_migrate]
  split
  · rw [migrate_withStandard]
  · rfl

/-- Where an agent is called for, the default is no other. -/
theorem withFirewall_withDefaults (s : Sandbox) :
    (withDefaults (some s)).withFirewall engine engines n
      = withDefaults (some (s.withFirewall engine engines n)) := by
  -- where the network calls for an agent, the standard one comes in either order
  by_cases hwants : s.wantsFirewall engine engines n = true
  · have hnone : s.agent = none := ((wantsFirewall_eq_true engine engines n).mp hwants).2.2
    have hright : withDefaults (some (s.withFirewall engine engines n))
        = s.migrate.withStandard := by
      rw [withFirewall_eq, if_pos hwants, withDefaults_of_agent (by simp [withStandard]),
        migrate_withStandard]
    rw [hright, withDefaults_eq]
    split
    · exact withFirewall_of_agent engine engines n (by simp [withStandard])
    · rw [withFirewall_eq, wantsFirewall_migrate, if_pos hwants]
  · have hright : s.withFirewall engine engines n = s := if_neg hwants
    rw [hright, withDefaults_eq]
    split
    · exact withFirewall_of_agent engine engines n (by simp [withStandard])
    · rw [withFirewall_eq, wantsFirewall_migrate, if_neg hwants]

/-- Which restrictions are looked at first does not show: either way one standard agent
    is put in. -/
theorem withFirewall_comm (engine' : Option Text) (engines' : List Text)
    (n' : Option Network) (s : Sandbox) :
    (s.withFirewall engine' engines' n').withFirewall engine engines n
      = (s.withFirewall engine engines n).withFirewall engine' engines' n' := by
  have hkept : ∀ (e : Option Text) (es : List Text) (m : Option Network),
      s.withStandard.withFirewall e es m = s.withStandard := by
    intro e es m
    exact withFirewall_of_agent e es m (by simp [withStandard])
  rw [withFirewall_eq engine' engines' n' s, withFirewall_eq engine engines n s]
  by_cases hfirst : s.wantsFirewall engine engines n = true
  · by_cases hsecond : s.wantsFirewall engine' engines' n' = true
    · rw [if_pos hfirst, if_pos hsecond, hkept, hkept]
    · rw [if_pos hfirst, if_neg hsecond, hkept, withFirewall_eq, if_pos hfirst]
  · by_cases hsecond : s.wantsFirewall engine' engines' n' = true
    · rw [if_neg hfirst, if_pos hsecond, hkept, withFirewall_eq, if_pos hsecond]
    · rw [if_neg hfirst, if_neg hsecond, withFirewall_eq, if_neg hfirst, withFirewall_eq,
        if_neg hsecond]

theorem withFirewall_withFirewall (s : Sandbox) :
    (s.withFirewall engine engines n).withFirewall engine engines n
      = s.withFirewall engine engines n := by
  by_cases hwants : s.wantsFirewall engine engines n = true
  · have hstandard : s.withFirewall engine engines n = s.withStandard := if_pos hwants
    rw [hstandard]
    exact withFirewall_of_agent engine engines n (by simp [withStandard])
  · have hsame : s.withFirewall engine engines n = s := if_neg hwants
    rw [hsame, hsame]

end Firewall

/-! ### Passes over requests -/

/-- A pass over the sandbox of a workflow, or over the lack of one. -/
inductive Pass where
  /-- Retired types become the default type. -/
  | migration
  /-- An empty request gets the standard agent. -/
  | defaults
  /-- Network restrictions call for an agent.  `engines` are those that have a firewall
      by default. -/
  | firewall (engine : Option Text) (engines : List Text) (network : Option Network)

namespace Pass

def run : Pass → Option Sandbox → Option Sandbox
  | .migration, request => request.map migrate
  | .defaults, request => some (withDefaults request)
  | .firewall engine engines network, request =>
    request.map (withFirewall engine engines network)

/-- Passes one after the other, the first one first. -/
def runAll (ps : List Pass) (request : Option Sandbox) : Option Sandbox :=
  ps.foldl (fun r p => p.run r) request

theorem run_run (p : Pass) (request : Option Sandbox) :
    p.run (p.run request) = p.run request := by
  cases p with
  | migration =>
    cases request with
    | none => rfl
    | some s => exact congrArg some (migrate_migrate s)
  | defaults =>
    cases request with
    | none =>
      show some (withDefaults (some (withDefaults none))) = some (withDefaults none)
      rw [withDefaults_none, withDefaults_withDefaults]
    | some s => exact congrArg some (withDefaults_withDefaults s)
  | firewall engine engines n =>
    cases request with
    | none => rfl
    | some s => exact congrArg some (withFirewall_withFirewall engine engines n s)

/-- The defaults come out alike before and after any other pass. -/
theorem run_defaults_comm (p : Pass) (request : Option Sandbox) :
    p.run (defaults.run request) = defaults.run (p.run request) := by
  cases p with
  | migration =>
    cases request with
    | none => decide
    | some s =>
      show some (withDefaults (some s)).migrate = some (withDefaults (some s.migrate))
      rw [migrate_withDefaults, withDefaults_migrate]
  | defaults => rfl
  | firewall engine engines n =>
    cases request with
    | none =>
      -- the default sandbox has its agent already
      show some ((withDefaults none).withFirewall engine engines n) = some (withDefaults none)
      rw [withFirewall_of_agent engine engines n (by decide)]
    | some s => exact congrArg some (withFirewall_withDefaults engine engines n s)

theorem run_comm (p q : Pass) (request : Option Sandbox) :
    p.run (q.run request) = q.run (p.run request) := by
  cases p with
  | defaults => exact (run_defaults_comm q request).symm
  | migration =>
    cases q with
    | migration => rfl
    | defaults => exact run_defaults_comm migration request
    | firewall engine engines n =>
      cases request with
      | none => rfl
      | some s => exact congrArg some (withFirewall_migrate engine engines n s).symm
  | firewall engine engines n =>
    cases q with
    | migration =>
      cases request with
      | none => rfl
      | some s => exact congrArg some (withFirewall_migrate engine engines n s)
    | defaults => exact run_defaults_comm (firewall engine engines n) request
    | firewall engine' engines' n' =>
      cases request with
      | none => rfl
      | some s =>
        exact congrArg some (withFirewall_comm engine engines n engine' engines' n' s)

theorem keeps_run (p : Pass) (s : Sandbox) : ∃ t, p.run (some s) = some t ∧ s.Keeps t := by
  cases p with
  | migration => exact ⟨s.migrate, rfl, s.keeps_migrate⟩
  | defaults =>
    refine ⟨withDefaults (some s), rfl, ?_⟩
    rw [withDefaults_eq]
    split
    · rename_i hempty
      exact s.keeps_migrate.trans (keeps_withStandard (agent_migrate_eq_none.mpr hempty.1))
    · exact s.keeps_migrate
  | firewall engine engines n =>
    refine ⟨s.withFirewall engine engines n, rfl, ?_⟩
    rw [withFirewall_eq]
    split
    · rename_i hwants
      exact keeps_withStandard ((wantsFirewall_eq_true engine engines n).mp hwants).2.2
    · exact Keeps.refl s

theorem keeps_runAll (ps : List Pass) (s : Sandbox) :
    ∃ t, runAll ps (some s) = some t ∧ s.Keeps t := by
  induction ps generalizing s with
  | nil => exact ⟨s, rfl, Keeps.refl s⟩
  | cons p ps ih =>
    obtain ⟨t, ht, hst⟩ := p.keeps_run s
    obtain ⟨u, hu, htu⟩ := ih t
    refine ⟨u, ?_, hst.trans htu⟩
    rw [runAll, List.foldl_cons, ht]
    exact hu

/-- **The passes wait for no other.**  A pass that runs again changes nothing, any two of
    them may change places, and however many run, what the author set is kept. -/
theorem run_anyOrder (p q : Pass) (ps : List Pass) (request : Option Sandbox) (s : Sandbox) :
    p.run (p.run request) = p.run request
      ∧ p.run (q.run request) = q.run (p.run request)
      ∧ ∃ t, runAll ps (some s) = some t ∧ s.Keeps t :=
  ⟨p.run_run request, p.run_comm q request, keeps_runAll ps s⟩

end Pass

end Sandbox

end WorkflowPolicy
