/-
  WorkflowPolicy/Proofs/Network.lean
  ==================================
  **The network that a frontmatter declares.**  Only a network mapping restricts
  anything or has firewall settings; every other value stands for the default set.
  What the checks ask of a network is traced back to the raw mapping.
-/
import WorkflowPolicy.Proofs.Workflow.Passes

namespace WorkflowPolicy

/-! ### Networks -/

namespace Network

/-- The domains of a network mapping; no other value lists domains. -/
def domains? (m : Mapping) : Option (List Text) :=
  match m.value "network" with
  | .map es => some (((Mapping.value es "allowed").texts?).getD [])
  | _ => none

def firewallOptions? (m : Mapping) : Option Mapping :=
  match m.value "network" with
  | .map es => (Mapping.value es "firewall").entries?
  | _ => none

/-- A declared network is a network mapping, or it is the default set by name. -/
theorem networkOf_cases (m : Mapping) :
    (∃ es, m.value "network" = .map es ∧ Workflow.networkOf m =
        { allowed := ((Mapping.value es "allowed").texts?).getD []
          blocked := ((Mapping.value es "blocked").texts?).getD []
          firewall := (Mapping.get? es "firewall").bind Firewall.ofData?
          explicit := true })
      ∨ ((∀ es, m.value "network" ≠ .map es) ∧ (Workflow.networkOf m).allowed = [defaultSet]
          ∧ (Workflow.networkOf m).firewall = none) := by
  rw [Workflow.networkOf, ofFrontmatter?, Mapping.value]
  cases m.get? "network" with
  | none => exact .inr ⟨fun es h => (by cases h), rfl, rfl⟩
  | some d =>
    cases d with
    | map es => exact .inl ⟨es, rfl, rfl⟩
    | text s =>
      refine .inr ⟨fun es h => (by cases h), ?_⟩
      by_cases hs : s = defaultSet
      · simp only [Option.bind_some, ofData?, if_pos hs]
        exact ⟨rfl, rfl⟩
      · simp only [Option.bind_some, ofData?, if_neg hs]
        exact ⟨rfl, rfl⟩
    | _ => exact .inr ⟨fun es h => (by cases h), rfl, rfl⟩

theorem domains?_of_ne_map {m : Mapping} (h : ∀ es, m.value "network" ≠ .map es) :
    domains? m = none := by
  unfold domains?
  split
  · rename_i es hes
    exact (h es hes).elim
  · rfl

theorem firewallOptions?_of_ne_map {m : Mapping} (h : ∀ es, m.value "network" ≠ .map es) :
    firewallOptions? m = none := by
  unfold firewallOptions?
  split
  · rename_i es hes
    exact (h es hes).elim
  · rfl

/-- Only the domains of a mapping restrict: any list but the default set alone. -/
theorem isRestricted_networkOf (m : Mapping) :
    (Workflow.networkOf m).isRestricted = (domains? m).any (· != [defaultSet]) := by
  rcases networkOf_cases m with ⟨es, hes, hnetwork⟩ | ⟨hne, hallowed, -⟩
  · rw [hnetwork, domains?, hes, isRestricted, usesDefaultsOnly, deniesAll, Option.any_some]
    cases ((Mapping.value es "allowed").texts?).getD [] with
    | nil => rfl
    | cons d ds => simp [bne]
  · rw [domains?_of_ne_map hne, isRestricted, usesDefaultsOnly, deniesAll, hallowed]
    simp

theorem allowsEverything_networkOf (m : Mapping) :
    (Workflow.networkOf m).allowsEverything = (domains? m).any (·.contains "*") := by
  rcases networkOf_cases m with ⟨es, hes, hnetwork⟩ | ⟨hne, hallowed, -⟩
  · rw [hnetwork, domains?, hes]
    rfl
  · rw [domains?_of_ne_map hne, allowsEverything, hallowed]
    rfl

end Network

/-! ### Firewalls -/

namespace Firewall

/-- URLs are allowed without HTTPS inspection. -/
def allowUrlsViolation? (options : Mapping) : Option Violation :=
  if ((options.value "allow-urls").texts?).getD [] ≠ [] ∧ options.value "ssl-bump" ≠ .bool true
  then some allowUrlsViolation
  else none

/-- The log level is a text that is not empty, and none of the known ones. -/
def logLevelViolation? (options : Mapping) : Option Violation :=
  match options.value "log-level" with
  | .text level =>
    if level = "" ∨ level ∈ logLevels then none else some (logLevelViolation level)
  | _ => none

theorem flag?_getD_false (d : Data) : (d.flag?).getD false = false ↔ d ≠ .bool true := by
  cases d with
  | bool b => cases b <;> simp [Data.flag?]
  | _ => simp [Data.flag?]

theorem violation?_ofData_map (options : Mapping) :
    (ofData? (.map options)).bind violation?
      = (allowUrlsViolation? options).or (logLevelViolation? options) := by
  rw [ofData?, Option.bind_some, violation?, allowUrlsViolation?, logLevelViolation?]
  simp only [flag?_getD_false]
  split
  · rfl
  · rw [Option.none_or]
    cases options.value "log-level" <;> rfl

/-- Only the firewall mapping of a network mapping can break a rule. -/
theorem violation?_networkOf (m : Mapping) :
    (Workflow.networkOf m).firewall.bind violation?
      = ((Network.firewallOptions? m).bind allowUrlsViolation?).or
          ((Network.firewallOptions? m).bind logLevelViolation?) := by
  rcases Network.networkOf_cases m with ⟨es, hes, hnetwork⟩ | ⟨hne, -, hfirewall⟩
  · rw [hnetwork, Network.firewallOptions?, hes]
    simp only [Mapping.value]
    cases Mapping.get? es "firewall" with
    | none => rfl
    | some d =>
      cases d with
      | map options => exact violation?_ofData_map options
      | bool b => cases b <;> rfl
      | _ => rfl
  · rw [hfirewall, Network.firewallOptions?_of_ne_map hne]
    rfl

end Firewall

end WorkflowPolicy
