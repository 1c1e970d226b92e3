/-
  WorkflowPolicy/Proofs/Sandbox/ReadBack.lean
  ===========================================
  **Sandboxes read back.**  The frontmatter value of an agent or of a gateway asks for
  that agent or gateway.  An agent leaves no room for the type and the settings of older
  workflows, so the value of a sandbox asks for the sandbox without them if it has an
  agent, and for the sandbox itself if it has none (`ofData_toData`).

  All this needs of an environment is that no name occurs twice in it, which is so for
  every environment that was read (`isProper_of_request`).
-/
import WorkflowPolicy.Proofs.Records
import WorkflowPolicy.Proofs.Sandbox.Request

namespace WorkflowPolicy

/-! ### Agents -/

namespace Agent

theorem settings_ofFields (c : Fields Data) : settings (.ofFields c) = .accepted (some c) := by
  have hfields := Schema.fields_any c
  rw [Fields.ofFields_eq] at hfields ⊢
  rw [settings, hfields]
  rfl

theorem settings_row (config : Option (Fields Data)) :
    settings ((config.map Data.ofFields).getD .null) = .accepted config := by
  cases config with
  | none => rfl
  | some c => exact settings_ofFields c

def rows (a : Agent) : Fields (Option Data) :=
  [("id", Fields.textRow a.id),
   ("type", Fields.textRow a.type),
   ("command", Fields.textRow a.command),
   ("args", Fields.textsRow a.args),
   ("env", Fields.textMapRow a.env),
   ("mounts", Fields.textsRow a.mounts),
   ("config", a.config.map Data.ofFields)]

theorem distinct_rows (a : Agent) : a.rows.Distinct := by
  simp [Assoc.Distinct, rows]

theorem toData_eq {a : Agent} (h : a.disabled = false) :
    a.toData = .ofFields (Fields.present a.rows) := by
  rw [toData, h]
  simp only [rows, Fields.entry_text, Fields.entry_texts, Fields.entry_textMap,
    Fields.present_cons_cons, List.append_assoc]
  cases a.config <;> rfl

theorem ofData_toData {a : Agent} (henabled : a.disabled = false)
    (henv : a.env.Distinct) : ofData a.toData = .accepted (some a) := by
  rw [toData_eq henabled, Fields.ofFields_eq]
  simp only [ofData, textAt, textsAt, envAt, Fields.value_toMapping,
    Fields.get?_present a.distinct_rows]
  obtain ⟨_, _, disabled, _, _, _, _, _⟩ := a
  obtain rfl : disabled = false := henabled
  simp [rows, Fields.get?, Assoc.get?, settings_row, Fields.textMap_row henv, Verdict.map]

theorem envIsOverlong_toData {a : Agent} (h : a.disabled = false) :
    a.toData.envIsOverlong = false := by
  rw [toData_eq h, Fields.ofFields_eq, Data.envIsOverlong, Fields.value_toMapping,
    Fields.get?_present a.distinct_rows]
  simp [rows, Fields.get?, Assoc.get?]

end Agent

/-! ### Gateways -/

namespace Gateway

def rows (g : Gateway) : Fields (Option Data) :=
  [("container", Fields.textRow g.container),
   ("version", Fields.textRow g.version),
   ("entrypoint", Fields.textRow g.entrypoint),
   ("port", g.port.map Data.int),
   ("api-key", Fields.textRow g.apiKey),
   ("domain", Fields.textRow g.domain),
   ("args", Fields.textsRow g.args),
   ("entrypointArgs", Fields.textsRow g.entrypointArgs),
   ("env", Fields.textMapRow g.env),
   ("mounts", Fields.textsRow g.mounts),
   ("payloadDir", Fields.textRow g.payloadDir)]

theorem distinct_rows (g : Gateway) : g.rows.Distinct := by
  simp [Assoc.Distinct, rows]

theorem toData_eq (g : Gateway) : g.toData = .ofFields (Fields.present g.rows) := by
  simp only [toData, rows, Fields.entry_text, Fields.entry_texts, Fields.entry_textMap,
    Fields.present_cons_cons, List.append_assoc]
  cases g.port <;> rfl

theorem port_row (port : Option Int) : ((port.map Data.int).getD .null).number? = port := by
  cases port <;> rfl

theorem ofData?_toData {g : Gateway} (henv : g.env.Distinct) :
    ofData? g.toData = some g := by
  rw [toData_eq, Fields.ofFields_eq]
  simp only [ofData?, Agent.textAt, Agent.textsAt, Agent.envAt, Fields.value_toMapping,
    Fields.get?_present g.distinct_rows]
  simp [rows, Fields.get?, Assoc.get?, Fields.textMap_row henv, port_row]

theorem envIsOverlong_toData (g : Gateway) : g.toData.envIsOverlong = false := by
  rw [toData_eq, Fields.ofFields_eq, Data.envIsOverlong, Fields.value_toMapping,
    Fields.get?_present g.distinct_rows]
  simp [rows, Fields.get?, Assoc.get?]

end Gateway

/-! ### Sandboxes -/

namespace Sandbox

def rows (s : Sandbox) : Fields (Option Data) :=
  [("agent", s.agent.map Agent.toData),
   ("mcp", s.gateway.map Gateway.toData),
   ("type", Fields.textRow s.type),
   ("config", s.config.map Data.ofFields)]

theorem distinct_rows (s : Sandbox) : s.rows.Distinct := by
  simp [Assoc.Distinct, rows]

theorem toData_eq (s : Sandbox) : s.toData = .ofFields (Fields.present s.rows) := by
  simp only [toData, rows, Fields.entry_text, Fields.present_cons_cons, List.append_assoc]
  cases s.agent <;> cases s.gateway <;> cases s.config <;> rfl

/-- Environments as they are read: no name occurs twice. -/
structure IsProper (s : Sandbox) : Prop where
  agent : ∀ a ∈ s.agent, a.env.Distinct
  gateway : ∀ g ∈ s.gateway, g.env.Distinct

/-- The sandbox in the form of today: beside an agent there is no type and there are no
    settings of older workflows. -/
def current (s : Sandbox) : Sandbox :=
  if s.agent.isSome then { s with type := "", config := none } else s

theorem current_of_agent {s : Sandbox} (h : s.agent ≠ none) :
    s.current = { s with type := "", config := none } :=
  if_pos (Option.isSome_iff_ne_none.mpr h)

theorem current_of_agent_eq_none {s : Sandbox} (h : s.agent = none) : s.current = s := by
  rw [current, h]
  rfl

theorem agent_current (s : Sandbox) : s.current.agent = s.agent := by
  by_cases h : s.agent = none
  · rw [current_of_agent_eq_none h]
  · rw [current_of_agent h]

/-- What a sandbox with an agent loses stands at the end of its written form. -/
theorem present_rows_of_agent {s : Sandbox} (h : s.agent ≠ none) :
    Fields.present s.rows = Fields.present s.current.rows
      ++ Fields.present
        [("type", Fields.textRow s.type), ("config", s.config.map Data.ofFields)] := by
  rw [current_of_agent h]
  simp only [rows, Fields.present_cons_cons, List.append_assoc]
  rfl

/-- The written form of a sandbox holds everything that it has in the form of today, and
    otherwise only its older parts. -/
theorem present_rows_current (s : Sandbox) :
    (Fields.present s.current.rows).Sublist (Fields.present s.rows)
      ∧ ∀ e ∈ Fields.present s.rows, e ∉ Fields.present s.current.rows →
        e.1 = "type" ∨ e.1 = "config" := by
  by_cases h : s.agent = none
  · rw [current_of_agent_eq_none h]
    exact ⟨List.Sublist.refl _, fun e he hnot => (hnot he).elim⟩
  · rw [present_rows_of_agent h]
    refine ⟨List.sublist_append_left _ _, ?_⟩
    intro e he hnot
    rcases List.mem_append.mp he with hkept | hlost
    · exact (hnot hkept).elim
    · simpa using Fields.key_of_mem_present hlost

theorem get?_present_current (s : Sandbox) (key : Text) (htype : key ≠ "type")
    (hconfig : key ≠ "config") :
    (Fields.present s.current.rows).get? key = (Fields.present s.rows).get? key := by
  by_cases h : s.agent = none
  · rw [current_of_agent_eq_none h]
  · -- only what stands under the two names of older workflows is lost
    have hnone : (Fields.present [("type", Fields.textRow s.type),
        ("config", s.config.map Data.ofFields)]).get? key = none := by
      apply (Assoc.get?_eq_none_iff id key _).mpr
      intro e he hkey
      have hlost : e.1 = "type" ∨ e.1 = "config" := by
        simpa using Fields.key_of_mem_present he
      rcases hlost with h | h
      · exact htype (hkey.symm.trans h)
      · exact hconfig (hkey.symm.trans h)
    have happend := Assoc.get?_append id key (Fields.present s.current.rows)
      (Fields.present [("type", Fields.textRow s.type), ("config", s.config.map Data.ofFields)])
    rw [present_rows_of_agent h]
    exact (happend.trans ((congrArg _ hnone).trans Option.or_none)).symm

/-- **Sandboxes read back** in the form of today. -/
theorem ofData_toData {s : Sandbox} (h : s.IsProper) (henabled : s.agentDisabled = false) :
    ofData s.toData = .accepted (some s.current) := by
  obtain ⟨agent, gateway, type, config⟩ := s
  have hgateway : (gateway.map Gateway.toData).bind Gateway.ofData? = gateway := by
    cases gateway with
    | none => rfl
    | some g => exact Gateway.ofData?_toData (h.gateway g rfl)
  rw [toData_eq, Fields.ofFields_eq]
  simp only [ofData, ofMapping, Agent.textAt, Fields.value_toMapping, Fields.get?_toMapping,
    Fields.get?_present (distinct_rows _)]
  cases agent with
  | none =>
    simp [rows, Fields.get?, Assoc.get?, hgateway, Agent.ofData, Agent.settings_row,
      Verdict.andThen, Verdict.map, current]
  | some a =>
    have hdisabled : a.disabled = false := henabled
    have hagent : Agent.ofData a.toData = .accepted (some a) :=
      Agent.ofData_toData hdisabled (h.agent a rfl)
    have hmapping : a.toData ≠ .bool false := by
      rw [Agent.toData_eq hdisabled]
      intro hfalse
      cases hfalse
    simp [rows, Fields.get?, Assoc.get?, hgateway, hagent, hmapping, Verdict.andThen, current]

theorem isOverlong_toData {s : Sandbox} (henabled : s.agentDisabled = false) :
    isOverlong s.toData = false := by
  obtain ⟨agent, gateway, type, config⟩ := s
  have hagent : ((agent.map Agent.toData).getD .null).envIsOverlong = false := by
    cases agent with
    | none => rfl
    | some a => exact Agent.envIsOverlong_toData henabled
  have hgateway : ((gateway.map Gateway.toData).getD .null).envIsOverlong = false := by
    cases gateway with
    | none => rfl
    | some g => exact g.envIsOverlong_toData
  rw [toData_eq, Fields.ofFields_eq]
  simp only [isOverlong, Fields.value_toMapping, Fields.get?_present (distinct_rows _)]
  simp [rows, Fields.get?, Assoc.get?, hagent, hgateway]

/-! ### Sandboxes that are read -/

theorem distinct_env_gatewayIn {es : Mapping} {g : Gateway} (h : gatewayIn es = some g) :
    g.env.Distinct := by
  rw [gatewayIn, Option.bind_eq_some_iff] at h
  obtain ⟨d, -, hd⟩ := h
  cases d with
  | map options =>
    obtain rfl := Option.some.inj hd
    exact Fields.distinct_textMap _
  | _ => cases hd

section Requests

variable {r : Request} {s : Sandbox} (h : r.sandbox = some s)

include h

/-- An agent that is asked for is turned off, has a type alone, or has options. -/
theorem agent_of_request {a : Agent} (ha : s.agent = some a) :
    a = Agent.off ∨ (∃ type, a = { type := type }) ∨ ∃ options, a = Agent.ofOptions options := by
  cases r with
  | nothing => cases h
  | off =>
    obtain rfl := Option.some.inj h
    exact .inl (Option.some.inj ha).symm
  | agentNamed es type supported =>
    obtain rfl := Option.some.inj h
    exact .inr (.inl ⟨type, (Option.some.inj ha).symm⟩)
  | agentOptions es options =>
    obtain rfl := Option.some.inj h
    exact .inr (.inr ⟨options, (Option.some.inj ha).symm⟩)
  | _ =>
    obtain rfl := Option.some.inj h
    cases ha

theorem gateway_of_request {g : Gateway} (hg : s.gateway = some g) :
    ∃ es, gatewayIn es = some g := by
  cases r with
  | nothing => cases h
  | off =>
    obtain rfl := Option.some.inj h
    cases hg
  | named type supported =>
    obtain rfl := Option.some.inj h
    cases hg
  | _ =>
    obtain rfl := Option.some.inj h
    exact ⟨_, hg⟩

/-- What is asked for is proper. -/
theorem isProper_of_request : s.IsProper := by
  constructor
  · intro a ha
    rcases agent_of_request h ha with rfl | ⟨type, rfl⟩ | ⟨options, rfl⟩
    · exact List.nodup_nil
    · exact List.nodup_nil
    · exact Fields.distinct_textMap _
  · intro g hg
    obtain ⟨es, hes⟩ := gateway_of_request h hg
    exact distinct_env_gatewayIn hes

/-- An agent that is turned off has nothing else to say. -/
theorem isBare_of_request : ∀ a ∈ s.agent, a.disabled = true → a.isBare = true := by
  intro a ha hdisabled
  rcases agent_of_request h ha with rfl | ⟨type, rfl⟩ | ⟨options, rfl⟩
  · rfl
  · cases hdisabled
  · cases hdisabled

end Requests

end Sandbox

end WorkflowPolicy
