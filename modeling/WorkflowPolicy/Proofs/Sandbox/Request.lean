/-
  WorkflowPolicy/Proofs/Sandbox/Request.lean
  ==========================================
  **What an author asks of the sandbox** has six shapes.  Reading, refusals and rules
  of the sandbox are all decided by the shape, so the case analysis on the raw value
  is made once (`ofFrontmatter_eq_guarded`), and everything after it is about
  requests.

  Retired types are replaced between reading and checking.  They are the types that
  would be unknown otherwise, so a request breaks a rule exactly when its own type
  is neither supported nor retired (`Request.violation?_sandbox`).
-/
import WorkflowPolicy.Proofs.Assoc
import WorkflowPolicy.Proofs.Schema
import WorkflowPolicy.Sandbox.Defaults

namespace WorkflowPolicy

/-! ### Agents -/

namespace Agent

def configRefusals : Data → List Refusal
  | .map es => Mapping.refusals "config" es
  | _ => []

def configOf : Data → Option (Fields Data)
  | .map es => some (Schema.underTexts es (es.map fun e => (Schema.keyName e.1, e.2)))
  | _ => none

theorem settings_eq_guarded (d : Data) :
    settings d = Verdict.guarded (configRefusals d) (configOf d) := by
  cases d with
  | map es =>
    rw [settings, Schema.fields_any_eq_guarded, Verdict.map_guarded, Verdict.within_guarded]
    rfl
  | _ => rfl

def ofOptions (options : Mapping) : Agent :=
  { id := textAt options "id"
    type := textAt options "type"
    command := textAt options "command"
    args := textsAt options "args"
    env := envAt options "env"
    mounts := textsAt options "mounts"
    config := configOf (options.value "config") }

theorem ofData_map (options : Mapping) :
    ofData (.map options)
      = Verdict.guarded (configRefusals (options.value "config")) (some (ofOptions options)) := by
  rw [ofData, settings_eq_guarded]
  exact Verdict.map_guarded _ _ _

end Agent

namespace Sandbox

/-- What an author asks of the sandbox. -/
inductive Request where
  /-- Nothing, be it by leaving it out, by `true`, or by a malformed value. -/
  | nothing
  /-- No sandbox at all. -/
  | off
  /-- A type by its name. -/
  | named (type : Text) (supported : type ∈ supportedSandboxTypes)
  /-- An agent by the name of its type. -/
  | agentNamed (es : Mapping) (type : Text) (supported : type ∈ supportedSandboxTypes)
  /-- An agent with options. -/
  | agentOptions (es options : Mapping)
  /-- A mapping without an agent, as in older workflows. -/
  | legacy (es : Mapping)

def requestIn (es : Mapping) : Request :=
  match es.value "agent" with
  | .bool false => .off
  | .text s => if h : s ∈ supportedSandboxTypes then .agentNamed es s h else .legacy es
  | .map options => .agentOptions es options
  | _ => .legacy es

def request (m : Mapping) : Request :=
  match m.value "sandbox" with
  | .bool false => .off
  | .text s => if h : s ∈ supportedSandboxTypes then .named s h else .nothing
  | .map es => requestIn es
  | _ => .nothing

def gatewayIn (es : Mapping) : Option Gateway := (es.get? "mcp").bind Gateway.ofData?

namespace Request

/-- The refused keys: only settings are carried as they are. -/
def refusals : Request → List Refusal
  | agentOptions _ options => Agent.configRefusals (Mapping.value options "config")
  | legacy es => Agent.configRefusals (es.value "config")
  | _ => []

/-- The sandbox that is read when nothing is refused. -/
def sandbox : Request → Option Sandbox
  | nothing => none
  | off => some Sandbox.off
  | named type _ => some { type := type }
  | agentNamed es type _ =>
    some { agent := some { type := type }, gateway := gatewayIn es }
  | agentOptions es options =>
    some { agent := some (Agent.ofOptions options), gateway := gatewayIn es }
  | legacy es =>
    some
      { gateway := gatewayIn es
        type := Agent.textAt es "type"
        config := Agent.configOf (es.value "config") }

end Request

theorem ofMapping_legacy {es : Mapping} (h : Agent.ofData (es.value "agent") = .accepted none) :
    ofMapping es = Verdict.guarded (Request.legacy es).refusals (Request.legacy es).sandbox := by
  rw [ofMapping, h, Verdict.andThen, Agent.settings_eq_guarded]
  exact Verdict.map_guarded _ _ _

theorem ofMapping_eq_guarded {es : Mapping} (h : es.value "agent" ≠ .bool false) :
    ofMapping es = Verdict.guarded (requestIn es).refusals (requestIn es).sandbox := by
  rw [requestIn]
  cases hagent : es.value "agent" with
  | text s =>
    by_cases hs : s ∈ supportedSandboxTypes
    · rw [ofMapping, hagent, Agent.ofData, if_pos hs]
      simp only [dif_pos hs]
      rfl
    · have hnone : Agent.ofData (es.value "agent") = .accepted none := by
        rw [hagent, Agent.ofData, if_neg hs]
      simp only [dif_neg hs]
      exact ofMapping_legacy hnone
  | map options =>
    have hrefusals : (Request.agentOptions es options).refusals
        = Agent.configRefusals (Mapping.value options "config") := rfl
    rw [ofMapping, hagent, Agent.ofData_map, hrefusals]
    cases Agent.configRefusals (Mapping.value options "config") <;> rfl
  | bool b =>
    cases b with
    | false => exact (h hagent).elim
    | true => exact ofMapping_legacy (by rw [hagent]; rfl)
  | _ => exact ofMapping_legacy (by rw [hagent]; rfl)

theorem ofData_map (es : Mapping) :
    ofData (.map es)
      = Verdict.guarded (requestIn es).refusals (requestIn es).sandbox := by
  have hvalue : es.value "agent" = .bool false ↔ es.get? "agent" = some (.bool false) :=
    Mapping.value_eq_iff nofun
  by_cases hoff : es.value "agent" = .bool false
  · rw [ofData, if_pos (hvalue.mp hoff), requestIn, hoff]
    rfl
  · rw [ofData, if_neg fun h => hoff (hvalue.mpr h)]
    exact ofMapping_eq_guarded hoff

theorem ofFrontmatter_eq_guarded (m : Mapping) :
    ofFrontmatter m = Verdict.guarded (request m).refusals (request m).sandbox := by
  rw [ofFrontmatter, request]
  cases hsandbox : m.value "sandbox" with
  | bool b => cases b <;> rfl
  | text s =>
    rw [ofData]
    by_cases hs : s ∈ supportedSandboxTypes
    · simp only [if_pos hs, dif_pos hs]
      rfl
    · simp only [if_neg hs, dif_neg hs]
      rfl
  | map es => exact ofData_map es
  | _ => rfl

end Sandbox

/-! ### Sandbox types -/

namespace Sandbox

/-- The types that pass, retired ones included. -/
def knownTypes : List Text := supportedSandboxTypes ++ retiredSandboxTypes

def unknownType? (field type : Text) : Option Violation :=
  if type = "" ∨ type ∈ knownTypes then none else some (typeViolation field type)

/-- The rule that a request breaks: it turns the sandbox off, or it names an unknown
    type.  An agent goes by its identifier, else by its type. -/
def Request.violation? : Request → Option Violation
  | off => some offViolation
  | agentOptions _ options =>
    unknownType? "sandbox.agent" (Agent.kind (Agent.ofOptions options))
  | legacy es => unknownType? "sandbox.type" (Agent.textAt es "type")
  | _ => none

theorem currentType_of_mem {type : Text} (h : type ∈ retiredSandboxTypes) :
    currentType type = defaultSandboxType := if_pos h

theorem currentType_of_notMem {type : Text} (h : type ∉ retiredSandboxTypes) :
    currentType type = type := if_neg h

theorem currentType_eq_empty {type : Text} : currentType type = "" ↔ type = "" := by
  constructor
  · intro h
    by_cases hretired : type ∈ retiredSandboxTypes
    · rw [currentType_of_mem hretired] at h
      exact absurd h (by decide)
    · rwa [currentType_of_notMem hretired] at h
  · rintro rfl
    decide

theorem isUnknownType_iff {type : Text} :
    isUnknownType type = true ↔ type ≠ "" ∧ type ∉ supportedSandboxTypes := by
  simp [isUnknownType]

/-- A type is unknown after the retired ones are replaced when it was unknown before. -/
theorem unknownType?_currentType (field type : Text) :
    (if isUnknownType (currentType type) then some (typeViolation field (currentType type))
      else none) = unknownType? field type := by
  by_cases hretired : type ∈ retiredSandboxTypes
  · -- a retired type becomes the default one, which is known
    have hknown : type = "" ∨ type ∈ knownTypes := .inr (List.mem_append_right _ hretired)
    have hdefault : ¬ isUnknownType defaultSandboxType = true := by decide
    rw [currentType_of_mem hretired, unknownType?, if_pos hknown, if_neg hdefault]
  · rw [currentType_of_notMem hretired]
    by_cases hunknown : isUnknownType type = true
    · have hnot : ¬ (type = "" ∨ type ∈ knownTypes) := by
        obtain ⟨hempty, hsupported⟩ := isUnknownType_iff.mp hunknown
        rintro (h | h)
        · exact hempty h
        · rcases List.mem_append.mp h with h | h
          · exact hsupported h
          · exact hretired h
      rw [if_pos hunknown, unknownType?, if_neg hnot]
    · have hknown : type = "" ∨ type ∈ knownTypes := by
        refine Decidable.byContradiction ?_
        intro hnot
        rw [not_or] at hnot
        exact hunknown (isUnknownType_iff.mpr
          ⟨hnot.1, fun h => hnot.2 (List.mem_append_left _ h)⟩)
      rw [if_neg hunknown, unknownType?, if_pos hknown]

theorem migrate_of_enabled {a : Agent} (h : a.disabled = false) :
    a.migrate = { a with id := currentType a.id, type := currentType a.type } := by
  rw [Agent.migrate, h]
  rfl

theorem kind_migrate {a : Agent} (h : a.disabled = false) :
    a.migrate.kind = currentType a.kind := by
  rw [migrate_of_enabled h, Agent.kind, Agent.kind]
  by_cases hid : a.id = ""
  · rw [if_pos hid, if_pos (currentType_eq_empty.mpr hid)]
  · rw [if_neg hid, if_neg fun h => hid (currentType_eq_empty.mp h)]

theorem violation?_migrate {s : Sandbox} (h : s.agentDisabled = false) :
    s.migrate.violation?
      = (s.agent.bind fun a => unknownType? "sandbox.agent" a.kind).or
          (unknownType? "sandbox.type" s.type) := by
  have htype := unknownType?_currentType "sandbox.type" s.type
  cases hagent : s.agent with
  | none =>
    rw [migrate, hagent, violation?]
    exact htype
  | some a =>
    have hdisabled : a.disabled = false := by
      rw [agentDisabled, hagent] at h
      exact h
    have hmigrated : a.migrate.disabled = false := by
      rw [migrate_of_enabled hdisabled]
      exact hdisabled
    have hkind := unknownType?_currentType "sandbox.agent" a.kind
    have hoff : Sandbox.agentDisabled { s with type := currentType s.type, agent := some a.migrate }
        = false := hmigrated
    rw [migrate, hagent, Option.map_some, violation?, hoff, if_neg (by decide), Option.bind_some,
      ← hkind, ← htype, ← kind_migrate hdisabled]
    simp only [Option.any_some, Option.map_some, Option.getD_some]
    split
    · rfl
    · rfl

theorem unknownType?_of_mem {field type : Text} (h : type ∈ supportedSandboxTypes) :
    unknownType? field type = none :=
  if_pos (.inr (List.mem_append_left _ h))

/-- The violation of a request is the one that its sandbox has once retired types are
    replaced. -/
theorem Request.violation?_sandbox (r : Request) :
    (r.sandbox.map migrate).bind Sandbox.violation? = r.violation? := by
  have hempty : unknownType? "sandbox.type" "" = none := rfl
  cases r with
  | nothing => rfl
  | off => rfl
  | named type supported =>
    refine (violation?_migrate (s := { type := type }) rfl).trans ?_
    exact unknownType?_of_mem supported
  | agentNamed es type supported =>
    refine (violation?_migrate
      (s := { agent := some { type := type }, gateway := gatewayIn es }) rfl).trans ?_
    have hkind : Agent.kind { type := type } = type := rfl
    rw [Option.bind_some, hkind, unknownType?_of_mem supported]
    exact hempty
  | agentOptions es options =>
    refine (violation?_migrate
      (s := { agent := some (Agent.ofOptions options), gateway := gatewayIn es }) rfl).trans ?_
    rw [Option.bind_some, hempty, Option.or_none]
    rfl
  | legacy es =>
    exact violation?_migrate
      (s := { gateway := gatewayIn es, type := Agent.textAt es "type"
              config := Agent.configOf (es.value "config") }) rfl

end Sandbox

end WorkflowPolicy
