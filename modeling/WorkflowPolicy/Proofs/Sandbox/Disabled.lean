/-
  WorkflowPolicy/Proofs/Sandbox/Disabled.lean
  ===========================================
  **Agents that are turned off.**  The rule on a whole record is all that the model asks
  of an agent, so what it accepts turned off is exactly what the rule lets through: an
  agent with nothing but settings of older workflows (`Agent.isAccepted_off_iff`).  The rule
  overlooks these settings, and the written form, which is `false`, drops them
  (`Agent.ofRecord_offWithSettings`).

  No pass turns an agent off or changes one that is off, so whatever passes run, an agent
  that is off in the end has been so from the start (`Pass.runAll_keepsOff`).
-/
import WorkflowPolicy.Proofs.Records
import WorkflowPolicy.Proofs.Sandbox.AnyOrder

namespace WorkflowPolicy

/-! ### Agents -/

namespace Agent

def IsAccepted (a : Agent) : Prop := ∃ d, ofRecord d = .accepted a

/-- **The model accepts** every agent that keeps to the rule, and no other. -/
theorem isAccepted_iff {a : Agent} : a.IsAccepted ↔ (a.disabled = true → a.isBare = true) := by
  constructor
  · rintro ⟨d, hd⟩ hoff
    obtain ⟨b, -, hrule⟩ := Verdict.andThen_eq_accepted.mp hd
    split at hrule
    · cases hrule
    · rename_i hkeeps
      obtain rfl := Verdict.accepted.inj hrule
      simpa [hoff] using hkeeps
  · intro h
    exact ⟨a.record, ofRecord_record h⟩

/-- An agent that is turned off, with settings of older workflows. -/
def offWith (config : Option (Fields Data)) : Agent := { off with config := config }

theorem isBare_iff {a : Agent} : a.isBare = true ↔ a.id = "" ∧ a.type = "" ∧ a.command = ""
    ∧ a.args = [] ∧ a.env = [] ∧ a.mounts = [] := by
  simp [isBare, and_assoc]

/-- The rule leaves room for settings and for nothing else. -/
theorem isAccepted_off_iff {a : Agent} :
    a.IsAccepted ∧ a.disabled = true ↔ ∃ config, a = offWith config := by
  constructor
  · rintro ⟨haccepted, hoff⟩
    obtain ⟨hid, htype, hcommand, hargs, henv, hmounts⟩ :=
      isBare_iff.mp (isAccepted_iff.mp haccepted hoff)
    obtain ⟨id, type, disabled, command, args, env, mounts, config⟩ := a
    obtain rfl : id = "" := hid
    obtain rfl : type = "" := htype
    obtain rfl : disabled = true := hoff
    obtain rfl : command = "" := hcommand
    obtain rfl : args = [] := hargs
    obtain rfl : env = [] := henv
    obtain rfl : mounts = [] := hmounts
    exact ⟨config, rfl⟩
  · rintro ⟨config, rfl⟩
    exact ⟨isAccepted_iff.mpr fun _ => rfl, rfl⟩

/-- Settings beside an agent that is turned off are accepted, and lost when it is written. -/
theorem ofRecord_offWithSettings :
    ofRecord (.map [(.text "disabled", .bool true), (.text "config", .map [(.text "a", .int 1)])])
        = .accepted (offWith (some [("a", .int 1)]))
      ∧ (offWith (some [("a", .int 1)])).disabled = true
      ∧ (offWith (some [("a", .int 1)])).config ≠ none
      ∧ (offWith (some [("a", .int 1)])).toData = off.toData := by
  refine ⟨rfl, rfl, ?_, rfl⟩
  simp [offWith]

end Agent

/-! ### Sandboxes -/

namespace Sandbox

def IsAccepted (s : Sandbox) : Prop := ∃ d, ofRecord d = .accepted s

/-- The model of a sandbox has no rule but that of its agent. -/
theorem isAccepted_iff {s : Sandbox} : s.IsAccepted ↔ ∀ a ∈ s.agent, a.IsAccepted := by
  constructor
  · rintro ⟨d, hd⟩ a ha
    obtain ⟨es, rfl, hread⟩ := Schema.model_eq_accepted.mp hd
    -- the fields are read one after the other, the agent first
    obtain ⟨_, config, htypes, -, rfl⟩ := Verdict.seq_eq_accepted.mp hread
    obtain ⟨_, type, hgateways, -, rfl⟩ := Verdict.seq_eq_accepted.mp htypes
    obtain ⟨_, gateway, hagents, -, rfl⟩ := Verdict.seq_eq_accepted.mp hgateways
    obtain ⟨agent, hagent, rfl⟩ := Verdict.map_eq_accepted.mp hagents
    rcases Schema.field_eq_accepted hagent with rfl | ⟨d, hd⟩
    · cases ha
    · exact ⟨d, Schema.optional_eq_accepted hd a ha⟩
  · intro h
    refine ⟨s.record, ofRecord_record ?_⟩
    intro a ha
    exact Agent.isAccepted_iff.mp (h a ha)

namespace Pass

/-- One pass: an agent that is off afterwards was there before, and was the same. -/
theorem run_keepsOff {p : Pass} {request : Option Sandbox} {t : Sandbox} {a : Agent}
    (ht : p.run request = some t) (ha : t.agent = some a) (hoff : a.disabled = true) :
    ∃ s, request = some s ∧ s.agent = some a := by
  cases request with
  | none =>
    -- out of nothing comes the standard agent or none
    cases p with
    | defaults =>
      obtain rfl := Option.some.inj ht
      obtain rfl := Option.some.inj ha
      cases hoff
    | _ => cases ht
  | some s =>
    obtain ⟨t', ht', hkeeps⟩ := p.keeps_run s
    obtain rfl := Option.some.inj (ht'.symm.trans ht)
    refine ⟨s, rfl, ?_⟩
    cases hagent : s.agent with
    | none =>
      rcases hkeeps.added hagent with hnone | hstandard
      · rw [hnone] at ha
        cases ha
      · rw [hstandard] at ha
        obtain rfl := Option.some.inj ha
        cases hoff
    | some b =>
      obtain ⟨c, hc, hbc⟩ := hkeeps.agent b hagent
      obtain rfl := Option.some.inj (hc.symm.trans ha)
      rw [hbc.off (hbc.disabled.symm.trans hoff)]

/-- Any number of passes, by induction on the passes that are left to run. -/
theorem runAll_keepsOff {ps : List Pass} {request : Option Sandbox} {t : Sandbox} {a : Agent}
    (ht : runAll ps request = some t) (ha : t.agent = some a) (hoff : a.disabled = true) :
    ∃ s, request = some s ∧ s.agent = some a := by
  induction ps generalizing request with
  | nil => exact ⟨t, ht, ha⟩
  | cons p ps ih =>
    have hrest : runAll ps (p.run request) = some t := ht
    obtain ⟨u, hu, hagent⟩ := ih hrest
    exact run_keepsOff hu hagent hoff

/-- **An agent that is turned off** carries settings at most, and stays as it was through
    any passes. -/
theorem runAll_offCarriesSettings {ps : List Pass} {request : Option Sandbox}
    (h : ∀ s ∈ request, s.IsAccepted) :
    (∀ a : Agent, a.IsAccepted ∧ a.disabled = true ↔ ∃ config, a = Agent.offWith config)
      ∧ ∀ t ∈ runAll ps request, ∀ a ∈ t.agent, a.disabled = true →
        (∃ s ∈ request, s.agent = some a) ∧ ∃ config, a = Agent.offWith config := by
  refine ⟨fun a => Agent.isAccepted_off_iff, ?_⟩
  intro t ht a ha hoff
  obtain ⟨s, hs, hagent⟩ := runAll_keepsOff ht ha hoff
  have haccepted : a.IsAccepted := isAccepted_iff.mp (h s hs) a hagent
  exact ⟨⟨s, hs, hagent⟩, Agent.isAccepted_off_iff.mp ⟨haccepted, hoff⟩⟩

/-- A sandbox of a retired type whose agent is turned off. -/
def retiredOff : Sandbox := { agent := some (Agent.offWith (some [])), type := "srt" }

theorem runAll_offCarriesSettings_retired :
    (∀ s ∈ some retiredOff, s.IsAccepted)
      ∧ ∃ t, runAll [.defaults, .migration] (some retiredOff) = some t
        ∧ t.type = "awf" ∧ t.agentDisabled = true
        ∧ ∀ a ∈ t.agent, a.disabled = true → ∃ config, a = Agent.offWith config := by
  have hrequest : ∀ s ∈ some retiredOff, s.IsAccepted := by
    intro s hs
    obtain rfl := Option.some.inj hs
    rw [isAccepted_iff]
    intro a ha
    obtain rfl := Option.some.inj ha
    exact (Agent.isAccepted_off_iff.mpr ⟨some [], rfl⟩).1
  have hrun : runAll [.defaults, .migration] (some retiredOff)
      = some { retiredOff with type := "awf" } := by
    decide +kernel
  refine ⟨hrequest, _, hrun, rfl, rfl, ?_⟩
  intro a ha hoff
  exact ((runAll_offCarriesSettings hrequest).2 _ hrun a ha hoff).2

end Pass

end Sandbox

end WorkflowPolicy
