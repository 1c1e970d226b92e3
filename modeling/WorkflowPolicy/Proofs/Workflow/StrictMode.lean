/-
  WorkflowPolicy/Proofs/Workflow/StrictMode.lean
  ==============================================
  **Strict mode is sound for what is emitted.**  A policy of strict mode hands no
  protected write access, no wildcard, no unenforced restriction, no cache in the
  repository, no open server and no disabled sandbox to the job
  (`compile_isTight`).

  The checks run on what was read, and the policy is made afterwards: permissions
  are rendered, the sandbox gets its defaults.  Permissions read back as they were,
  and no default turns a sandbox off, so what was checked holds of the policy.
-/
import WorkflowPolicy.Proofs.Permissions
import WorkflowPolicy.Proofs.Sandbox.Defaults
import WorkflowPolicy.Proofs.Workflow.Passes

namespace WorkflowPolicy

/-! ### What passing the checks says -/

theorem Strict.clear_of_violation? {p : Option Permissions} {n : Network} {tools servers : Mapping}
    (h : violation? p (some n) tools servers = none) :
    p.bind forbiddenWrite? = none ∧ n.allowsEverything = false
      ∧ (cacheInstances (tools.value "cache-memory")).any keepsInRepo = false
      ∧ servers.find? (isOpenServer ·.2) = none := by
  rw [violation?, Option.or_eq_none_iff, Option.or_eq_none_iff, Option.or_eq_none_iff] at h
  obtain ⟨hpermissions, hnetwork, htools, hservers⟩ := h
  refine ⟨Option.map_eq_none_iff.mp hpermissions, ?_, ?_, Option.map_eq_none_iff.mp hservers⟩
  · rw [networkViolation?] at hnetwork
    split at hnetwork
    · cases hnetwork
    · rename_i hallowed
      exact Bool.eq_false_iff.mpr hallowed
  · rw [toolsViolation?] at htools
    split at htools
    · cases htools
    · rename_i hcaches
      exact Bool.eq_false_iff.mpr hcaches

theorem Network.enforced_of_supportFailure? {engine : Option Text} {n : Network}
    {supported : List Text} (h : supportFailure? engine n true supported = none)
    (hrestricted : n.isRestricted = true) : ∃ e ∈ supported, engine = some e := by
  rw [supportFailure?] at h
  split at h
  · cases h
  · rename_i hsupported
    cases engine with
    | none => exact (hsupported ⟨rfl, hrestricted, rfl⟩).elim
    | some e =>
      refine ⟨e, ?_, rfl⟩
      by_cases he : e ∈ supported
      · exact he
      · refine (hsupported ⟨rfl, hrestricted, ?_⟩).elim
        rw [Option.any_some, List.contains_eq_mem, decide_eq_false he]

theorem Workflow.clear_of_passFailure? {settings : Settings} {w : Workflow}
    (h : passFailure? settings w = none) :
    w.sandbox.bind Sandbox.violation? = none
      ∧ Network.supportFailure? w.engine w.network w.strict settings.firewallEngineSupport = none
      ∧ w.strictFailure? = none := by
  obtain ⟨hsandbox, -, hsupport, hstrict⟩ := passFailure?_eq_none_iff.mp h
  exact ⟨hsandbox, hsupport, hstrict⟩

/-! ### What strict mode guarantees -/

namespace Policy

/-- The permissions that a job reads from an emitted policy. -/
def emittedPermissions? (p : Policy) : Option Permissions :=
  (p.toFields.get? "permissions").bind Permissions.ofData?

def emittedNetwork? (p : Policy) : Option Network :=
  (p.toFields.get? "network").bind Network.ofData?

/-- A policy that lets nothing through which strict mode forbids. -/
structure IsTight (settings : Settings) (p : Policy) : Prop where
  /-- The emitted permissions grant write access to no protected scope. -/
  writes : ∀ granted ∈ p.emittedPermissions?, ∀ scope ∈ permissionScopes,
    scope ∉ Strict.writableScopes → granted.has scope .write = false
  /-- The network that is emitted is the one of the workflow, without the wildcard. -/
  network : ∃ n, p.emittedNetwork? = some n ∧ n.allowed = p.workflow.network.allowed
    ∧ ("*" : Text) ∉ n.allowed
  /-- Restrictions are left to engines that can enforce them. -/
  enforced : p.workflow.network.isRestricted = true →
    ∃ engine ∈ settings.firewallEngineSupport, p.workflow.engine = some engine
  /-- No cache is kept in the repository. -/
  caches : ∀ cache ∈ Strict.cacheInstances (p.workflow.tools.value "cache-memory"),
    cache.get? "scope" ≠ some (.text "repo")
  /-- Every server in a container has a network of its own. -/
  servers : ∀ name server, (name, .map server) ∈ p.workflow.servers →
    Mapping.contains server "container" = true → Mapping.contains server "network" = true
  /-- An agent runs in a sandbox that is not turned off. -/
  sandbox : ∃ s, p.workflow.sandbox = some s ∧ s.agentDisabled = false

/-! ### The emitted form -/

theorem emittedPermissions?_eq (p : Policy) :
    p.emittedPermissions? = Permissions.ofData? (orNull (p.workflow.permissions.map
      Permissions.toData)) := rfl

theorem emittedPermissions?_of_isProper {p : Policy}
    (h : ∀ granted ∈ p.workflow.permissions, granted.IsProper) :
    p.emittedPermissions? = p.workflow.permissions := by
  rw [emittedPermissions?_eq]
  cases hpermissions : p.workflow.permissions with
  | none => rfl
  | some granted => exact (h granted hpermissions).ofData?_toData

theorem allowed_emittedNetwork? (p : Policy) :
    ∃ n, p.emittedNetwork? = some n ∧ n.allowed = p.workflow.network.allowed := by
  refine ⟨_, rfl, ?_⟩
  show ((Data.ofTexts p.workflow.network.allowed).texts?).getD [] = p.workflow.network.allowed
  rw [Data.texts?_ofTexts]
  rfl

/-- **Strict mode is sound.**  Whatever is compiled in strict mode into a policy is
    compiled into a tight one. -/
theorem compile_isTight {settings : Settings} {asked : Option Bool} {m : Mapping} {p : Policy}
    (h : (compile settings asked m).outcome = .ok p) (hstrict : p.workflow.strict = true) :
    p.IsTight settings := by
  obtain ⟨hnone, hpolicy⟩ := Check.guarded_eq_ok ((compile_guarded settings asked m).symm.trans h)
  subst hpolicy
  -- from here on the policy is that of one workflow `w`, whose passes all succeeded
  obtain ⟨w, hw⟩ : ∃ w, w = Workflow.reading settings asked m := ⟨_, rfl⟩
  rw [← hw] at hstrict ⊢
  have hproper : ∀ granted ∈ w.permissions, granted.IsProper := by
    intro granted hgranted
    rw [hw] at hgranted
    exact Permissions.isProper_ofData? hgranted
  rw [failure?_eq_none_iff, Workflow.failure?, Option.or_eq_none_iff, ← hw] at hnone
  obtain ⟨hsandbox, hsupport, hreview⟩ := Workflow.clear_of_passFailure? hnone.1.2
  have hmode : w.strict = true := hstrict
  rw [Workflow.strictFailure?, hmode, if_pos rfl] at hreview
  obtain ⟨hwrites, hwildcard, hcaches, hservers⟩ :=
    Strict.clear_of_violation? (Option.map_eq_none_iff.mp hreview)
  rw [hmode] at hsupport
  constructor
  · intro granted hgranted scope hscope hprotected
    rw [emittedPermissions?_of_isProper hproper] at hgranted
    have hforbidden : Strict.forbiddenWrite? granted = none :=
      Option.bind_eq_none_iff.mp hwrites granted hgranted
    exact Permissions.has_write_of_forbiddenWrite? hforbidden hscope hprotected
  · obtain ⟨n, hn, hallowed⟩ :=
      allowed_emittedNetwork? (ofWorkflow settings (Workflow.ready settings w))
    refine ⟨n, hn, hallowed, ?_⟩
    rw [hallowed]
    intro hmem
    have heverything : w.network.allowsEverything = true := List.contains_iff_mem.mpr hmem
    rw [hwildcard] at heverything
    cases heverything
  · exact Network.enforced_of_supportFailure? hsupport
  · intro cache hcache hscope
    have hnot := List.any_eq_false.mp hcaches cache hcache
    exact hnot (beq_iff_eq.mpr hscope)
  · intro name server hserver hcontainer
    have hnot := List.find?_eq_none.mp hservers (name, .map server) hserver
    rw [Strict.isOpenServer, hcontainer] at hnot
    cases hnetwork : Mapping.contains server "network" with
    | true => rfl
    | false =>
      rw [hnetwork] at hnot
      exact (hnot rfl).elim
  · exact ⟨_, rfl, Workflow.agentDisabled_finalSandbox settings hsandbox⟩

/-- A strict workflow with write access to an open scope, a restricted network, a cache
    and a server in a container. -/
def restrictedFrontmatter : Mapping :=
  [(.text "strict", .bool true),
   (.text "permissions",
    .map [(.text "contents", .text "read"), (.text "id-token", .text "write")]),
   (.text "network", .map [(.text "allowed", .list [.text "api.example.com"])]),
   (.text "tools",
    .map [(.text "cache-memory", .list [.text "x", .map [(.text "scope", .text "workflow")]])]),
   (.text "mcp-servers",
    .map [(.text "db", .map [(.text "container", .text "postgres"), (.text "network", .null)])])]

theorem compile_isTight_restricted :
    ∃ p, (compile {} none restrictedFrontmatter).outcome = .ok p
      ∧ p.workflow.strict = true ∧ p.workflow.network.isRestricted = true ∧ p.IsTight {} := by
  have hnone : failure? {} none restrictedFrontmatter = none := by decide +kernel
  have hok := compile_guarded {} none restrictedFrontmatter
  rw [hnone] at hok
  exact ⟨_, hok, by decide +kernel, by decide +kernel, compile_isTight hok (by decide +kernel)⟩

end Policy

end WorkflowPolicy
