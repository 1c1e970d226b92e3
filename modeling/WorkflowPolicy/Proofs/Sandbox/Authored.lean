/-
  WorkflowPolicy/Proofs/Sandbox/Authored.lean
  ===========================================
  **Sandboxes survive being written.**  The written form of a sandbox that was read asks
  for that very sandbox, and so does its written form once the retired types are replaced
  (`ofFrontmatter_readsBack`).

  In general the written form loses the older parts beside an agent and everything beside
  a disabled one (`ofData_toData`).  Reading never yields such a sandbox: an agent leaves
  no room for older parts, and an author who turns the sandbox off says nothing else.
  Replacing retired types keeps both facts (`IsAuthored.migrate`).
-/
import WorkflowPolicy.Proofs.Sandbox.Defaults

namespace WorkflowPolicy

namespace Sandbox

/-! ### What is read -/

/-- A sandbox that loses nothing by being written. -/
structure IsAuthored (s : Sandbox) : Prop where
  proper : s.IsProper
  current : s.current = s
  off : s.agentDisabled = true → s = Sandbox.off

theorem current_off : Sandbox.off.current = Sandbox.off := rfl

theorem current_of_request {r : Request} {s : Sandbox} (h : r.sandbox = some s) :
    s.current = s := by
  cases r with
  | nothing => cases h
  | off =>
    obtain rfl := Option.some.inj h
    exact current_off
  | agentNamed es type supported =>
    obtain rfl := Option.some.inj h
    rfl
  | agentOptions es options =>
    obtain rfl := Option.some.inj h
    rfl
  | _ =>
    -- neither a name nor an older workflow asks for an agent
    obtain rfl := Option.some.inj h
    exact current_of_agent_eq_none rfl

theorem eq_off_of_request {r : Request} {s : Sandbox} (h : r.sandbox = some s)
    (hdisabled : s.agentDisabled = true) : s = Sandbox.off := by
  cases r with
  | nothing => cases h
  | off => exact (Option.some.inj h).symm
  | _ =>
    obtain rfl := Option.some.inj h
    cases hdisabled

theorem isAuthored_of_request {r : Request} {s : Sandbox} (h : r.sandbox = some s) :
    s.IsAuthored := by
  constructor
  · exact isProper_of_request h
  · exact current_of_request h
  · intro hdisabled
    exact eq_off_of_request h hdisabled

/-! ### Retired types -/

theorem migrate_off : Sandbox.off.migrate = Sandbox.off := by
  decide

theorem current_migrate (s : Sandbox) : s.migrate.current = s.current.migrate := by
  by_cases hagent : s.agent = none
  · have hmigrated : s.migrate.agent = none := agent_migrate_eq_none.mpr hagent
    rw [current_of_agent_eq_none hagent, current_of_agent_eq_none hmigrated]
  · have hmigrated : s.migrate.agent ≠ none := by
      intro hnone
      exact hagent (agent_migrate_eq_none.mp hnone)
    have hempty : currentType "" = "" := currentType_eq_empty.mpr rfl
    rw [current_of_agent hagent, current_of_agent hmigrated]
    simp only [migrate, hempty]

theorem IsAuthored.migrate {s : Sandbox} (h : s.IsAuthored) : s.migrate.IsAuthored := by
  constructor
  · exact isProper_migrate h.proper
  · rw [current_migrate, h.current]
  · intro hdisabled
    rw [agentDisabled_migrate] at hdisabled
    rw [h.off hdisabled]
    exact migrate_off

/-! ### Written and read again -/

theorem ofData_off : ofData Sandbox.off.toData = .accepted (some Sandbox.off) := rfl

theorem IsAuthored.ofData_toData {s : Sandbox} (h : s.IsAuthored) :
    ofData s.toData = .accepted (some s) := by
  cases hdisabled : s.agentDisabled with
  | true =>
    rw [h.off hdisabled]
    exact ofData_off
  | false =>
    have hread := Sandbox.ofData_toData h.proper hdisabled
    rw [hread, h.current]

theorem ofFrontmatter_section (d : Data) : ofFrontmatter [(.text "sandbox", d)] = ofData d := by
  have hget : Mapping.get? [(.text "sandbox", d)] (.text "sandbox") = some d :=
    Assoc.get?_insert_self Data.keyForm _ _ []
  rw [ofFrontmatter, Mapping.value, hget]
  rfl

/-- **Sandboxes survive being written**, as they were read and with their retired types
    replaced. -/
theorem ofFrontmatter_readsBack {m : Mapping} {s : Sandbox}
    (h : ofFrontmatter m = .accepted (some s)) :
    ofFrontmatter [(.text "sandbox", s.toData)] = .accepted (some s)
      ∧ ofFrontmatter [(.text "sandbox", s.migrate.toData)] = .accepted (some s.migrate) := by
  rw [ofFrontmatter_eq_guarded] at h
  obtain ⟨-, hrequest⟩ := Verdict.guarded_eq_accepted h
  have hauthored : s.IsAuthored := isAuthored_of_request hrequest
  constructor
  · rw [ofFrontmatter_section]
    exact hauthored.ofData_toData
  · rw [ofFrontmatter_section]
    exact hauthored.migrate.ofData_toData

/-- A retired agent with empty settings, a number for the name of a variable, a port of
    zero, and older parts that its agent leaves no room for. -/
def mixedSandbox : Mapping :=
  [(.text "sandbox", .map
    [(.text "type", .text "srt"),
     (.text "config", .map [(.bytes [104, 105], .null)]),
     (.text "mcp", .map
      [(.text "port", .float (.finite true 4503599627370496 (-53))),
       (.text "entrypointArgs", .list [.text "", .int 1]),
       (.text "payloadDir", .text "/tmp")]),
     (.text "agent", .map
      [(.text "id", .text "sandbox-runtime"),
       (.text "command", .null),
       (.text "env", .map [(.bool true, .text "a"), (.text "True", .text "b"), (.int 2, .int 2)]),
       (.text "config", .map [])])])]

theorem ofFrontmatter_readsBack_mixed :
    ∃ s, ofFrontmatter mixedSandbox = .accepted (some s)
      ∧ s.agent = some { id := "sandbox-runtime", env := [("True", "b")], config := some [] }
      ∧ (s.gateway.bind (·.port)) = some 0 ∧ s.migrate ≠ s
      ∧ ofFrontmatter [(.text "sandbox", s.toData)] = .accepted (some s)
      ∧ ofFrontmatter [(.text "sandbox", s.migrate.toData)] = .accepted (some s.migrate) := by
  have h : ofFrontmatter mixedSandbox = .accepted (some
      { agent := some { id := "sandbox-runtime", env := [("True", "b")], config := some [] }
        gateway := some { port := some 0, entrypointArgs := [""], payloadDir := "/tmp" } }) := by
    rfl
  exact ⟨_, h, rfl, rfl, by decide +kernel, ofFrontmatter_readsBack h⟩

end Sandbox

end WorkflowPolicy
