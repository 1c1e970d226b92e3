/-
  WorkflowPolicy/Proofs/Workflow/Recompile.lean
  =============================================
  **A policy compiles to itself.**  A policy shows permissions, network, sandbox and safe
  outputs in their canonical form.  Put back in the place of the author's sections, they
  compile, and to the same policy (`compile_amend`): only the type and the settings of
  older workflows are gone from a sandbox that has an agent.

  The canonical sections are read as a workflow that differs from the author's in three
  ways alone (`Workflow.canonical`): its network counts as declared, its sandbox is the
  one that the passes settled on, and an empty token counts as none.  No check that the
  author's workflow passed and no part of a policy depends on any of them.
-/
import WorkflowPolicy.Proofs.Network.ReadBack
import WorkflowPolicy.Proofs.SafeOutput.BlockReadBack
import WorkflowPolicy.Proofs.Workflow.StrictMode

namespace WorkflowPolicy

open WorkflowPolicy.SafeOutput (Block)

/-! ### Canonical workflows -/

namespace Workflow

/-- A workflow as its canonical sections describe it. -/
def canonical (settings : Settings) (w : Workflow) : Workflow :=
  { w with
    network := { w.network with explicit := true }
    sandbox := some (finalSandbox settings w).current
    safeOutputs := w.safeOutputs.map Block.withoutEmptyToken }

variable {settings : Settings} {w : Workflow}

theorem isSettled_finalSandbox (settings : Settings) (w : Workflow) :
    (finalSandbox settings w).IsSettled w.engine settings.firewallEngines (some w.network) := by
  rw [finalSandbox_eq]
  exact Sandbox.isSettled_passes _ _ _ _

/-- The passes change nothing about a canonical sandbox. -/
theorem finalSandbox_canonical :
    finalSandbox settings (canonical settings w) = (finalSandbox settings w).current := by
  -- a network allows everything or not whether it was declared or not
  have hdeclared : (finalSandbox settings w).current.IsSettled w.engine settings.firewallEngines
      (some { w.network with explicit := true }) := by
    obtain ⟨htypes, hchosen, hfirewall⟩ := (isSettled_finalSandbox settings w).current
    exact ⟨htypes, hchosen, hfirewall⟩
  rw [finalSandbox_eq]
  exact hdeclared.passes_eq

/-- What passed every check passes them in canonical form. -/
theorem passFailure?_canonical (h : passFailure? settings w = none)
    (hrestricted : Network.isRestricted { w.network with explicit := true }
      = w.network.isRestricted) :
    passFailure? settings (canonical settings w) = none := by
  rw [passFailure?_eq_none_iff] at h ⊢
  obtain ⟨hsandbox, hfirewall, hsupport, hstrict⟩ := h
  refine ⟨?_, hfirewall, ?_, hstrict⟩
  · have hfinal : (finalSandbox settings w).violation? = none := by
      rw [finalSandbox_eq]
      exact Sandbox.violation?_passes _ _ _ (violation?_getD hsandbox)
    exact Sandbox.violation?_current hfinal
  · rw [Network.supportFailure?] at hsupport ⊢
    rw [← hrestricted] at hsupport
    exact hsupport

end Workflow

/-! ### Canonical policies -/

namespace SafeOutput

theorem Plan.compile_withoutEmptyToken (trial : Bool) (b : Option Block) :
    Plan.compile trial (b.map Block.withoutEmptyToken) = Plan.compile trial b := by
  cases b <;> rfl

end SafeOutput

namespace Policy

variable {settings : Settings} {asked : Option Bool} {m : Mapping} {w : Workflow}

/-- Only the sandbox of a policy tells whether its workflow was canonical. -/
theorem toFields_canonical :
    (ofWorkflow settings (Workflow.ready settings (Workflow.canonical settings w))).toFields
      = (ofWorkflow settings (Workflow.ready settings w)).toFields.insert "sandbox"
          (Workflow.finalSandbox settings w).current.toData := by
  have hblock : (w.safeOutputs.map Block.withoutEmptyToken).map Block.toData
      = w.safeOutputs.map Block.toData := by
    rw [Option.map_map]
    congr 1
    exact funext Block.toData_withoutEmptyToken
  rw [Workflow.ready, Workflow.finalSandbox_canonical, Workflow.canonical, Workflow.ready]
  generalize Workflow.finalSandbox settings w = s
  have henabled : Sandbox.firewallEnabled (some s.current) = Sandbox.firewallEnabled (some s) := by
    rw [Sandbox.firewallEnabled, Sandbox.firewallEnabled, Option.bind_some, Option.bind_some,
      Sandbox.agent_current]
  have hfirewall : Sandbox.effectiveFirewall (some s.current)
      (some { w.network with explicit := true })
        = Sandbox.effectiveFirewall (some s) (some w.network) := by
    rw [Sandbox.effectiveFirewall, henabled]
    rfl
  have hplan := SafeOutput.Plan.compile_withoutEmptyToken w.trialMode w.safeOutputs
  simp only [ofWorkflow, toFields, firewallData, hblock, henabled, hfirewall, hplan]
  rfl

theorem isOverlong_canonical : isOverlong (Workflow.canonical settings w) = isOverlong w := by
  have hplan := SafeOutput.Plan.compile_withoutEmptyToken w.trialMode w.safeOutputs
  rw [isOverlong, isOverlong, ← hplan]
  rfl

/-! ### Sections put back -/

/-- The sections of a policy under the keys that an author uses. -/
def sections (p : Policy) : Fields Data :=
  [("permissions", orNull (p.toFields.get? "permissions")),
   ("network", orNull (p.toFields.get? "network")),
   ("sandbox", orNull (p.toFields.get? "sandbox")),
   ("safe-outputs", orNull (p.toFields.get? "safe_outputs_config"))]

/-- A frontmatter with the sections of a policy in the place of its own. -/
def amend (p : Policy) (m : Mapping) : Mapping :=
  Assoc.insertAll Data.keyForm m p.sections.toMapping

def sectionKeys : List Text := ["permissions", "network", "sandbox", "safe-outputs"]

variable {p : Policy}

theorem get?_amend_section {key : Text} {d : Data} (h : (key, d) ∈ p.sections) :
    (p.amend m).get? key = some d := by
  have hdistinct : p.sections.Distinct := by
    simp [Assoc.Distinct, sections]
  apply Assoc.get?_insertAll_of_mem Data.keyForm (Fields.distinct_toMapping hdistinct)
  exact List.mem_map.mpr ⟨(key, d), h, rfl⟩

theorem value_amend_section {key : Text} {d : Data} (h : (key, d) ∈ p.sections) :
    (p.amend m).value key = d := by
  rw [Mapping.value, get?_amend_section h]
  rfl

/-- Everything but the sections is as the author wrote it. -/
theorem get?_amend_of_ne {k : Data} (h : ∀ key ∈ sectionKeys, k ≠ .text key) :
    (p.amend m).get? k = m.get? k := by
  have hnone : Assoc.get? Data.keyForm k p.sections.toMapping.reverse = none := by
    rw [Assoc.get?_eq_none_iff]
    intro e he hek
    obtain ⟨f, hf, rfl⟩ := List.mem_map.mp (List.mem_reverse.mp he)
    have hkey : f.1 ∈ sectionKeys := List.mem_map.mpr ⟨f, hf, rfl⟩
    exact h f.1 hkey (Data.keyForm_eq_text.mp hek.symm)
  exact (Assoc.get?_insertAll Data.keyForm k m p.sections.toMapping).trans (by rw [hnone]; rfl)

theorem value_amend_of_notMem {key : Text} (h : key ∉ sectionKeys) :
    (p.amend m).value key = m.value key := by
  apply Mapping.value_congr
  apply get?_amend_of_ne
  intro l hl hkey
  exact h (Data.text.inj hkey ▸ hl)

theorem mappingAt_amend {key : Text} (h : key ∉ sectionKeys) :
    Workflow.mappingAt (p.amend m) key = Workflow.mappingAt m key := by
  rw [Workflow.mappingAt, Workflow.mappingAt, value_amend_of_notMem h]

theorem strictness_amend :
    Workflow.strictness settings asked (p.amend m) = Workflow.strictness settings asked m := by
  rw [Workflow.strictness, Workflow.strictness, value_amend_of_notMem (by decide)]

theorem triggerOf_amend : Workflow.triggerOf (p.amend m) = Workflow.triggerOf m := by
  apply Workflow.triggerOf_congr
  · apply get?_amend_of_ne
    decide
  · apply get?_amend_of_ne
    intro key _
    exact nofun

theorem permissions_amend (h : ∀ granted ∈ p.workflow.permissions, granted.IsProper) :
    Permissions.ofData? ((p.amend m).value "permissions") = p.workflow.permissions := by
  rw [value_amend_section (d := orNull (p.toFields.get? "permissions")) (by simp [sections])]
  exact (emittedPermissions?_eq p).symm.trans (emittedPermissions?_of_isProper h)

theorem networkOf_amend :
    Workflow.networkOf (p.amend m) = { p.workflow.network with explicit := true } := by
  have hget : (p.amend m).get? "network" = some p.workflow.network.toData :=
    get?_amend_section (by simp [sections]; rfl)
  rw [Workflow.networkOf, Network.ofFrontmatter?_of_get? hget]
  rfl

theorem value_amend_sandbox {s : Sandbox} (hsandbox : p.workflow.sandbox = some s) :
    (p.amend m).value "sandbox" = s.toData := by
  rw [value_amend_section (d := orNull (p.toFields.get? "sandbox")) (by simp [sections])]
  show orNull (p.workflow.sandbox.map Sandbox.toData) = s.toData
  rw [hsandbox]
  rfl

theorem request_amend {s : Sandbox} (hsandbox : p.workflow.sandbox = some s) (hproper : s.IsProper)
    (henabled : s.agentDisabled = false) :
    (Sandbox.request (p.amend m)).refusals = []
      ∧ (Sandbox.request (p.amend m)).sandbox = some s.current := by
  apply Verdict.guarded_eq_accepted
  rw [← Sandbox.ofFrontmatter_eq_guarded, Sandbox.ofFrontmatter,
    value_amend_sandbox hsandbox]
  exact Sandbox.ofData_toData hproper henabled

theorem readsOverlong_amend {s : Sandbox} (hsandbox : p.workflow.sandbox = some s)
    (hblock : p.workflow.safeOutputs = (Block.extract m).block)
    (henabled : s.agentDisabled = false) : Workflow.readsOverlong (p.amend m) = false := by
  have hpermissions : (p.amend m).value "permissions"
      = orNull (p.workflow.permissions.map Permissions.toData) :=
    value_amend_section (by simp [sections]; rfl)
  have hnetwork : (p.amend m).get? "network" = some p.workflow.network.toData :=
    get?_amend_section (by simp [sections]; rfl)
  have hvalue : (p.amend m).value "safe-outputs"
      = orNull (p.workflow.safeOutputs.map Block.toData) :=
    value_amend_section (by simp [sections]; rfl)
  rw [Workflow.readsOverlong, Network.isOverlong_of_get? hnetwork, hpermissions,
    value_amend_sandbox hsandbox, Sandbox.isOverlong_toData henabled]
  have hgranted : Permissions.isOverlong
      (orNull (p.workflow.permissions.map Permissions.toData)) = false := by
    cases p.workflow.permissions with
    | none => rfl
    | some granted => exact granted.isOverlong_toData
  have hkeys : Block.isOverlong (p.amend m) = false := by
    cases hsafe : p.workflow.safeOutputs with
    | none =>
      rw [hsafe] at hvalue
      rw [Block.isOverlong, hvalue]
      rfl
    | some b =>
      rw [hsafe] at hvalue
      obtain ⟨es, rfl⟩ := Block.eq_ofMapping_of_extract (hblock.symm.trans hsafe)
      have hwritten := hvalue.trans (Block.toData_eq es)
      exact (Block.isOverlong_of_value hwritten).trans (Block.hasLongKey_written es)
  rw [hgranted, hkeys]
  rfl

theorem extract_amend (h : p.workflow.safeOutputs = (Block.extract m).block) :
    Block.extract (p.amend m)
      = { block := p.workflow.safeOutputs.map Block.withoutEmptyToken, rejected := [] } := by
  have hvalue : (p.amend m).value "safe-outputs"
      = orNull (p.workflow.safeOutputs.map Block.toData) :=
    value_amend_section (by simp [sections]; rfl)
  cases hblock : p.workflow.safeOutputs with
  | none =>
    rw [hblock] at hvalue
    rw [Block.extract, hvalue]
    rfl
  | some b =>
    obtain ⟨es, rfl⟩ := Block.eq_ofMapping_of_extract (h.symm.trans hblock)
    rw [hblock] at hvalue
    exact Block.extract_of_value es hvalue

/-! ### Compiling again -/

theorem isProper_finalSandbox (settings : Settings) (asked : Option Bool) (m : Mapping) :
    (Workflow.finalSandbox settings (Workflow.reading settings asked m)).IsProper := by
  apply Workflow.finalSandbox_preserves (P := Sandbox.IsProper) ⟨nofun, nofun⟩
    Sandbox.isProper_withStandard Sandbox.isProper_migrate
  intro s hs
  obtain ⟨t, ht, rfl⟩ := Option.map_eq_some_iff.mp hs
  exact Sandbox.isProper_migrate (Sandbox.isProper_of_request ht)

section Compiled

variable (h : (compile settings asked m).outcome = .ok p)

include h

/-- The canonical sandbox is the one that the passes settled on, in the form of today. -/
theorem request_amend_of_compile :
    (Sandbox.request (p.amend m)).refusals = []
      ∧ (Sandbox.request (p.amend m)).sandbox
        = some (Workflow.finalSandbox settings (Workflow.reading settings asked m)).current := by
  obtain ⟨hnone, rfl⟩ := compile_eq_ok_iff.mp h
  rw [failure?_eq_none_iff, Workflow.failure?, Option.or_eq_none_iff,
    Workflow.passFailure?_eq_none_iff] at hnone
  exact request_amend rfl (isProper_finalSandbox settings asked m)
    (Workflow.agentDisabled_finalSandbox settings hnone.1.2.1)

/-- No section has a number where a text is asked for. -/
theorem readsOverlong_amend_of_compile : Workflow.readsOverlong (p.amend m) = false := by
  obtain ⟨hnone, rfl⟩ := compile_eq_ok_iff.mp h
  rw [failure?_eq_none_iff, Workflow.failure?, Option.or_eq_none_iff,
    Workflow.passFailure?_eq_none_iff] at hnone
  exact readsOverlong_amend rfl rfl (Workflow.agentDisabled_finalSandbox settings hnone.1.2.1)

theorem extract_amend_of_compile :
    Block.extract (p.amend m)
      = { block := (Block.extract m).block.map Block.withoutEmptyToken, rejected := [] } := by
  obtain ⟨-, rfl⟩ := compile_eq_ok_iff.mp h
  exact extract_amend rfl

theorem readingFailure?_amend : Workflow.readingFailure? (p.amend m) = none := by
  obtain ⟨hnone, -⟩ := compile_eq_ok_iff.mp h
  rw [failure?_eq_none_iff, Workflow.failure?, Option.or_eq_none_iff,
    Workflow.readingFailure?_eq_none_iff] at hnone
  obtain ⟨⟨⟨-, -, -, htools⟩, -⟩, -⟩ := hnone
  rw [Workflow.readingFailure?_eq_none_iff]
  refine ⟨readsOverlong_amend_of_compile h, ?_, (request_amend_of_compile h).1, ?_⟩
  · rw [← Workflow.head?_rejected, extract_amend_of_compile h]
    rfl
  · rw [Workflow.toolRefusals, mappingAt_amend (by decide), mappingAt_amend (by decide)]
    exact htools

/-- The canonical sections are read as the canonical workflow. -/
theorem reading_amend :
    Workflow.reading settings asked (p.amend m)
      = Workflow.canonical settings (Workflow.reading settings asked m) := by
  have hsettled := Workflow.isSettled_finalSandbox settings (Workflow.reading settings asked m)
  have hpermissions : Permissions.ofData? ((p.amend m).value "permissions")
      = Permissions.ofData? (m.value "permissions") := by
    obtain ⟨-, rfl⟩ := compile_eq_ok_iff.mp h
    exact permissions_amend fun granted hgranted => Permissions.isProper_ofData? hgranted
  have hnetwork : Workflow.networkOf (p.amend m)
      = { Workflow.networkOf m with explicit := true } := by
    obtain ⟨-, rfl⟩ := compile_eq_ok_iff.mp h
    exact networkOf_amend
  rw [Workflow.reading, hpermissions, hnetwork, (request_amend_of_compile h).2,
    extract_amend_of_compile h, Option.map_some, hsettled.current.types, triggerOf_amend,
    strictness_amend, mappingAt_amend (by decide), mappingAt_amend (by decide)]
  -- the parts that are left stand outside the sections
  rw [value_amend_of_notMem (by decide), value_amend_of_notMem (by decide),
    value_amend_of_notMem (by decide)]
  rfl

theorem failure?_amend : failure? settings asked (p.amend m) = none := by
  obtain ⟨hnone, -⟩ := compile_eq_ok_iff.mp h
  rw [failure?_eq_none_iff, Workflow.failure?, Option.or_eq_none_iff] at hnone ⊢
  obtain ⟨⟨-, hpasses⟩, hfits⟩ := hnone
  refine ⟨⟨readingFailure?_amend h, ?_⟩, ?_⟩
  · rw [reading_amend h]
    exact Workflow.passFailure?_canonical hpasses (Network.isRestricted_declared m)
  · rw [derivesOverlong, reading_amend h, isOverlong_canonical]
    exact hfits

end Compiled

/-- A policy that repeats another one: every entry but the sandbox is the same, and the
    sandbox has lost at most the type and the settings of older workflows. -/
structure Repeats (q p : Policy) : Prop where
  keys : q.toFields.keys = p.toFields.keys
  entries : ∀ key : Text, key ≠ "sandbox" → q.toFields.get? key = p.toFields.get? key
  sandbox : ∃ before after : Fields Data,
    p.toFields.get? "sandbox" = some (.ofFields before)
      ∧ q.toFields.get? "sandbox" = some (.ofFields after)
      ∧ after.get? "agent" = before.get? "agent" ∧ after.get? "mcp" = before.get? "mcp"
      ∧ after.Sublist before
      ∧ ∀ e ∈ before, e ∉ after → e.1 = "type" ∨ e.1 = "config"

theorem repeats_of_current {q : Policy} {s : Sandbox} (hs : p.workflow.sandbox = some s)
    (h : q.toFields = p.toFields.insert "sandbox" s.current.toData) : q.Repeats p := by
  have hbefore : p.toFields.get? "sandbox" = some s.toData := by
    show some (orNull (p.workflow.sandbox.map Sandbox.toData)) = some s.toData
    rw [hs]
    rfl
  obtain ⟨hsublist, hlost⟩ := s.present_rows_current
  have hagent := s.get?_present_current "agent" (by decide) (by decide)
  have hgateway := s.get?_present_current "mcp" (by decide) (by decide)
  refine ⟨?_, ?_, _, _, ?_, ?_, hagent, hgateway, hsublist, hlost⟩
  · rw [h]
    rfl
  · intro key hkey
    rw [h]
    exact Assoc.get?_insert_of_ne id hkey.symm _ _
  · rw [hbefore, Sandbox.toData_eq]
  · rw [h, Sandbox.toData_eq]
    exact Assoc.get?_insert_self id _ _ _

/-- **A policy compiles to itself.**  With its canonical sections put back a frontmatter
    compiles again, and what it compiles to repeats the policy. -/
theorem compile_amend (h : (compile settings asked m).outcome = .ok p) :
    ∃ q, (compile settings asked (p.amend m)).outcome = .ok q ∧ q.Repeats p := by
  obtain ⟨-, hpolicy⟩ := compile_eq_ok_iff.mp h
  refine ⟨_, compile_eq_ok_iff.mpr ⟨failure?_amend h, rfl⟩, ?_⟩
  rw [reading_amend h]
  apply repeats_of_current (s := Workflow.finalSandbox settings (Workflow.reading settings asked m))
  · rw [← hpolicy]
    rfl
  · rw [toFields_canonical, hpolicy]

/-- A strict workflow in an older form: a retired type with settings of its own, no
    network, levels and scopes that are not known and a token that is empty. -/
def olderFrontmatter : Mapping :=
  [(.text "strict", .bool true),
   (.bool true, .text "push"),
   (.text "sandbox",
    .map [(.text "type", .text "srt"), (.text "config", .map [(.text "mode", .int 1)]),
          (.text "mcp", .map [(.text "port", .float (.finite false 7 (-1)))])]),
   (.text "permissions",
    .map [(.text "issues", .text "all"), (.int 1, .text "write"),
          (.text "contents", .text "read")]),
   (.text "safe-outputs",
    .map [(.text "noop", .null), (.text "github-token", .text "")])]

theorem compile_amend_older :
    ∃ p q, (compile {} none olderFrontmatter).outcome = .ok p
      ∧ p.workflow.sandbox.any (·.type == ("awf" : Text)) = true
      ∧ p.workflow.safeOutputs.any (·.token == some ("" : Text)) = true
      ∧ p.workflow.network.explicit = false
      ∧ (compile {} none (p.amend olderFrontmatter)).outcome = .ok q ∧ q.Repeats p := by
  have hnone : failure? {} none olderFrontmatter = none := by decide +kernel
  have hok := compile_eq_ok_iff.mpr ⟨hnone, rfl⟩
  obtain ⟨q, hq, hrepeats⟩ := compile_amend hok
  exact ⟨_, q, hok, by decide +kernel, by decide +kernel, by decide +kernel, hq, hrepeats⟩

end Policy

end WorkflowPolicy
