/-
  WorkflowPolicy/Proofs/Workflow/Output.lean
  ==========================================
  **Policies as JSON.**  Nearly all of a policy is made of texts, numbers and flags.  What
  it carries as the author wrote it are the settings and the port of the sandbox and two
  concurrency blocks (`Workflow.handedOn`), so a policy whose plan could be built has JSON
  as soon as these have (`writable_toData`).
-/
import WorkflowPolicy.Proofs.Network.ReadBack
import WorkflowPolicy.Proofs.SafeOutput.Writable
import WorkflowPolicy.Proofs.Sandbox.Defaults
import WorkflowPolicy.Proofs.Workflow.Refusal

namespace WorkflowPolicy

open WorkflowPolicy.Json

/-! ### Sections of texts, numbers and flags -/

theorem Permissions.writable_toData (p : Permissions) : Writable p.toData := by
  rw [toData]
  split
  · exact writable_text _
  · exact writable_ofTextFields _

theorem Firewall.writable_toData (f : Firewall) : Writable f.toData := by
  rw [toData_eq]
  apply writable_present
  simp [rows]

theorem Network.writable_toData (n : Network) : Writable n.toData := by
  rw [toData_eq]
  apply writable_present
  simp [rows, Firewall.writable_toData]

theorem Gateway.writable_toData {g : Gateway} (h : ∀ n ∈ g.port, Writable (.int n)) :
    Writable g.toData := by
  rw [toData_eq]
  apply writable_present
  simpa [rows] using h

/-! ### Safe outputs -/

namespace SafeOutput

theorem Block.writable_settingRows (b : Block) : ∀ r ∈ b.settingRows, WritableRow r.2 := by
  have htoken : WritableRow (tokenRow b.token) := by
    rw [tokenRow]
    cases b.token with
    | none => exact writableRow_none
    | some t => exact writableRow_text t
  simp [settingRows, htoken]

theorem Block.writable_toData {es : Mapping} (hshort : (ofMapping es).holdsLongNumber = false) :
    Writable (ofMapping es).toData := by
  rw [toData_eq]
  apply writable_present
  intro r hr
  rcases List.mem_append.mp hr with haction | hsetting
  · obtain ⟨k, -, rfl⟩ := List.mem_map.mp haction
    rw [writableRow_map]
    intro a ha
    obtain ⟨d, -, hd⟩ := Option.bind_eq_some_iff.mp ha
    have hmem : a ∈ (ofMapping es).actions := List.mem_filterMap.mpr ⟨k, k.mem_all, ha⟩
    rw [(Action.isAccepted_of_extract? hd).2.writable_toData]
    exact Bool.eq_false_iff.mpr (List.any_eq_false.mp hshort a hmem)
  · exact writable_settingRows _ r hsetting

/-- A plan that can be built has nothing else that cannot be written. -/
theorem Plan.writable_toData {p : Plan} (h : p.isOverlong = false) : Writable p.toData := by
  rw [isOverlong, Bool.or_eq_false_iff, Option.isSome_eq_false_iff, Option.isSome_eq_false_iff,
    Option.isNone_iff_eq_none, Option.isNone_iff_eq_none] at h
  have hhandlers : Writable (.ofFields p.handlerConfig) := h.1
  have hprojects : Writable (.ofFields p.projectHandlerConfig) := h.2
  rw [toData, writable_ofFields]
  simp [hhandlers, hprojects]

end SafeOutput

/-! ### Sandboxes -/

theorem Schema.value_of_mem_underTexts {α : Type} {m : Mapping} {fields : Fields α}
    {e : Text × α} (h : e ∈ underTexts m fields) : ∃ f ∈ fields, f.2 = e.2 := by
  rw [underTexts] at h
  split at h
  · exact ⟨e, h, rfl⟩
  · obtain ⟨l, -, hmem⟩ := Assoc.mem_of_mem_ofList id h
    exact ⟨(l, e.2), hmem, rfl⟩

namespace Agent

theorem writable_toData {a : Agent} (h : ∀ c ∈ a.config, Writable (.ofFields c)) :
    Writable a.toData := by
  cases hdisabled : a.disabled with
  | true =>
    rw [toData, hdisabled]
    rfl
  | false =>
    rw [toData_eq hdisabled]
    apply writable_present
    simpa [rows] using h

/-- Settings are carried with the values that they had. -/
theorem writable_configOf {m : Mapping} (h : ∀ e ∈ Workflow.mappingAt m "config", Writable e.2) :
    ∀ c ∈ configOf (m.value "config"), Writable (.ofFields c) := by
  rw [Workflow.mappingAt] at h
  cases hvalue : m.value "config" with
  | map es =>
    rw [hvalue] at h
    intro c hc
    obtain rfl := Option.some.inj hc
    rw [writable_ofFields]
    intro e he
    obtain ⟨f, hf, hfe⟩ := Schema.value_of_mem_underTexts he
    obtain ⟨g, hg, rfl⟩ := List.mem_map.mp hf
    rw [← hfe]
    exact h g hg
  | _ =>
    intro c hc
    cases hc

end Agent

namespace Sandbox

/-- The settings that a sandbox carries can be written. -/
structure IsWritable (s : Sandbox) : Prop where
  agent : ∀ a ∈ s.agent, ∀ c ∈ a.config, Writable (.ofFields c)
  gateway : ∀ g ∈ s.gateway, ∀ n ∈ g.port, Writable (.int n)
  config : ∀ c ∈ s.config, Writable (.ofFields c)

theorem IsWritable.toData {s : Sandbox} (h : s.IsWritable) : Writable s.toData := by
  have hagent : ∀ a ∈ s.agent, Writable a.toData := fun a ha => Agent.writable_toData (h.agent a ha)
  have hgateway : ∀ g ∈ s.gateway, Writable g.toData := fun g hg =>
    Gateway.writable_toData (h.gateway g hg)
  have hconfig := h.config
  rw [toData_eq]
  apply writable_present
  simpa [rows] using ⟨hagent, hgateway, hconfig⟩

theorem isWritable_withStandard {s : Sandbox} (h : s.IsWritable) : s.withStandard.IsWritable := by
  refine ⟨?_, h.gateway, h.config⟩
  intro a ha
  obtain rfl := Option.some.inj ha
  exact nofun

theorem isWritable_migrate {s : Sandbox} (h : s.IsWritable) : s.migrate.IsWritable := by
  refine ⟨?_, h.gateway, h.config⟩
  intro a ha
  obtain ⟨b, hb, rfl⟩ := Option.map_eq_some_iff.mp ha
  have hconfig : b.migrate.config = b.config := by
    rw [Agent.migrate]
    split <;> rfl
  rw [hconfig]
  exact h.agent b hb

/-- The port of the gateway of a sandbox that is asked for. -/
def port? (m : Mapping) : Option Int :=
  (request m).sandbox.bind fun s => s.gateway.bind (·.port)

theorem isWritable_of_request {m : Mapping} {s : Sandbox} (h : ∀ e ∈ carried m, Writable e.2)
    (hport : ∀ n ∈ port? m, Writable (.int n)) (hs : (request m).sandbox = some s) :
    s.IsWritable := by
  have hgateway : ∀ g ∈ s.gateway, ∀ n ∈ g.port, Writable (.int n) := by
    intro g hg n hn
    apply hport
    rw [port?, hs, Option.bind_some, Option.mem_def.mp hg, Option.bind_some]
    exact hn
  rw [carried_eq] at h
  cases hrequest : request m with
  | nothing =>
    rw [hrequest] at hs
    cases hs
  | agentOptions es options =>
    rw [hrequest] at h hs
    obtain rfl := Option.some.inj hs
    refine ⟨?_, hgateway, nofun⟩
    intro a ha
    obtain rfl := Option.some.inj ha
    exact Agent.writable_configOf h
  | legacy es =>
    rw [hrequest] at h hs
    obtain rfl := Option.some.inj hs
    exact ⟨nofun, hgateway, Agent.writable_configOf h⟩
  | named type supported =>
    rw [hrequest] at hs
    obtain rfl := Option.some.inj hs
    exact ⟨nofun, hgateway, nofun⟩
  | _ =>
    -- an agent without options has no settings
    rw [hrequest] at hs
    obtain rfl := Option.some.inj hs
    refine ⟨?_, hgateway, nofun⟩
    intro a ha
    obtain rfl := Option.some.inj ha
    exact nofun

end Sandbox

/-! ### Concurrency -/

namespace Concurrency

theorem writable_of_explicit? {d : Data} {c : Concurrency} (hd : Writable d)
    (h : explicit? d = some c) : Writable c.toData := by
  cases d with
  | text s =>
    rw [explicit?] at h
    split at h
    · cases h
    · obtain rfl := Option.some.inj h
      exact writable_map.mpr (by simp [keyFault?])
  | map es =>
    cases es with
    | nil => cases h
    | cons e es =>
      obtain rfl := Option.some.inj h
      exact hd
  | _ => cases h

theorem writable_of_block_eq_none {c : Concurrency} (h : c.block = none) : Writable c.toData := by
  rw [toData, h]
  simp [writable_ofFields]

theorem writable_ofWorkflow (on : Data) (isCommand : Bool) {explicit : Data}
    (h : Writable explicit) : Writable (ofWorkflow on isCommand explicit).toData := by
  rw [ofWorkflow]
  cases hexplicit : explicit? explicit with
  | none => exact writable_of_block_eq_none rfl
  | some c => exact writable_of_explicit? h hexplicit

theorem writable_ofJob (on : Data) (isCommand : Bool) (engine : Option Text) {explicit : Data}
    (h : Writable explicit) : ∀ c ∈ ofJob on isCommand engine explicit, Writable c.toData := by
  intro c hc
  unfold ofJob at hc
  split at hc
  · rename_i d hexplicit
    obtain rfl := Option.some.inj hc
    exact writable_of_explicit? h hexplicit
  · -- nothing is carried by a group that follows from the engine
    apply writable_of_block_eq_none
    split at hc
    · cases hc
    · split at hc
      · cases hc
      · split at hc
        · cases hc
        · obtain rfl := Option.some.inj hc
          rfl

end Concurrency

/-! ### Policies -/

namespace Workflow

/-- What a policy carries as the author wrote it. -/
def handedOn (m : Mapping) : List Data :=
  [m.value "concurrency", (engineOf (m.value "engine")).2] ++ (Sandbox.carried m).map (·.2)
    ++ ((Sandbox.port? m).map Data.int).toList

theorem isWritable_finalSandbox {m : Mapping} (h : ∀ d ∈ handedOn m, Writable d)
    (settings : Settings) (asked : Option Bool) :
    (finalSandbox settings (reading settings asked m)).IsWritable := by
  have hcarried : ∀ e ∈ Sandbox.carried m, Writable e.2 := by
    intro e he
    exact h e.2 (List.mem_append_left _ (List.mem_append_right _ (List.mem_map.mpr ⟨e, he, rfl⟩)))
  have hport : ∀ n ∈ Sandbox.port? m, Writable (.int n) := by
    intro n hn
    exact h (.int n) (List.mem_append_right _ (by simpa using hn))
  apply finalSandbox_preserves (P := Sandbox.IsWritable) ⟨nofun, nofun, nofun⟩
    Sandbox.isWritable_withStandard Sandbox.isWritable_migrate
  intro s hs
  obtain ⟨t, ht, rfl⟩ := Option.map_eq_some_iff.mp hs
  exact Sandbox.isWritable_migrate (Sandbox.isWritable_of_request hcarried hport ht)

end Workflow

namespace Policy

@[simp] theorem writable_orNull {o : Option Data} : Writable (orNull o) ↔ WritableRow o := by
  cases o with
  | none => exact iff_of_true rfl writableRow_none
  | some d => exact writableRow_some.symm

theorem writable_firewallData (p : Policy) : Writable p.firewallData := by
  rw [firewallData, writable_ofFields]
  simp

/-- Five entries of a policy are left to look at: the others are texts, numbers and flags. -/
theorem writable_of_parts {p : Policy} (hsandbox : ∀ s ∈ p.workflow.sandbox, Writable s.toData)
    (hblock : ∀ b ∈ p.workflow.safeOutputs, Writable b.toData) (hplan : Writable p.plan.toData)
    (hgroup : Writable p.concurrency.toData) (hjob : ∀ c ∈ p.jobConcurrency, Writable c.toData) :
    Writable p.toData := by
  have hpermissions : ∀ granted ∈ p.workflow.permissions, Writable granted.toData :=
    fun granted _ => granted.writable_toData
  rw [toData, writable_ofFields]
  simp only [toFields, List.forall_mem_cons, writable_orNull, writableRow_map]
  simp only [writable_text, writable_bool, writable_ofTexts, Network.writable_toData,
    writable_firewallData, hplan, hgroup, implies_true, true_and]
  exact ⟨hpermissions, hsandbox, hblock, hjob, List.forall_mem_nil _⟩

/-- **Policies have JSON** when they fit into text and what they carry as it was written
    has JSON. -/
theorem writable_toData {m : Mapping} (h : ∀ d ∈ Workflow.handedOn m, Writable d)
    {settings : Settings} {asked : Option Bool}
    (hfits : derivesOverlong settings asked m = false) :
    Writable (ofWorkflow settings
      (Workflow.ready settings (Workflow.reading settings asked m))).toData := by
  have hgroup := h (m.value "concurrency") (by simp [Workflow.handedOn])
  have hjob := h (Workflow.engineOf (m.value "engine")).2 (by simp [Workflow.handedOn])
  rw [derivesOverlong, isOverlong, Bool.or_eq_false_iff, Bool.or_eq_false_iff] at hfits
  have hplan : (SafeOutput.Plan.compile settings.trialMode
      (SafeOutput.Block.extract m).block).isOverlong = false := hfits.1.1
  apply writable_of_parts
  · intro s hs
    obtain rfl := Option.some.inj hs
    exact (Workflow.isWritable_finalSandbox h settings asked).toData
  · intro b hb
    have haccepted := SafeOutput.Block.isAccepted_of_mem_extract b hb
    have hsafe : (SafeOutput.Block.extract m).block = some b := hb
    rw [hsafe, SafeOutput.Plan.isOverlong_compile _ haccepted] at hplan
    obtain ⟨es, rfl⟩ := SafeOutput.Block.eq_ofMapping_of_extract hb
    exact SafeOutput.Block.writable_toData hplan
  · exact SafeOutput.Plan.writable_toData hplan
  · exact Concurrency.writable_ofWorkflow _ _ hgroup
  · exact Concurrency.writable_ofJob _ _ _ hjob

end Policy

end WorkflowPolicy
