/-
  WorkflowPolicy/Proofs/Workflow/Refusal.lean
  ===========================================
  **Which frontmatters end in no policy error.**  Compilation ends with a policy or with a
  policy error unless a mapping that is carried as it stands has a key that is no text —
  the settings of the sandbox, the tools or the tool servers — or a number that has to be
  put into text is too long (`compile_failsCleanly`).  A rejected safe output is reported
  before any key is looked at, and before the numbers of the later parts.

  Everything else is sifted while it is read, so its model accepts it whatever the author
  wrote (`Workflow.AcceptsReadings`).
-/
import WorkflowPolicy.Proofs.SafeOutput.BlockReadBack
import WorkflowPolicy.Proofs.Sandbox.ReadBack
import WorkflowPolicy.Proofs.Workflow.Passes

namespace WorkflowPolicy

open WorkflowPolicy.SafeOutput (Action Block Messages)

/-! ### Keys -/

namespace Schema

/-- A key that can be carried: a text, or bytes that encode one. -/
def IsTextKey : Data → Prop
  | .text _ => True
  | .bytes bs => (utf8? bs).isSome = true
  | _ => False

theorem keyRefusals_eq_nil_iff {k : Data} : keyRefusals k = [] ↔ IsTextKey k := by
  cases k with
  | bytes bs => cases h : utf8? bs <;> simp [keyRefusals, IsTextKey, h]
  | _ => simp [keyRefusals, IsTextKey]

end Schema

namespace Mapping

def HasTextKeys (m : Mapping) : Prop := ∀ e ∈ m, Schema.IsTextKey e.1

theorem refusals_eq_nil_iff {field : Text} {m : Mapping} :
    m.refusals field = [] ↔ m.HasTextKeys := by
  rw [refusals, List.map_eq_nil_iff, List.flatMap_eq_nil_iff]
  simp only [Schema.keyRefusals_eq_nil_iff]
  rfl

end Mapping

/-! ### Mappings that are carried -/

namespace Sandbox

/-- The settings that a sandbox carries: those of an agent with options, or those of an
    older workflow. -/
def carried (m : Mapping) : Mapping :=
  match m.value "sandbox" with
  | .map es =>
    match Mapping.value es "agent" with
    | .bool false => []
    | .text s => if s ∈ supportedSandboxTypes then [] else Workflow.mappingAt es "config"
    | .map options => Workflow.mappingAt options "config"
    | _ => Workflow.mappingAt es "config"
  | _ => []

theorem configRefusals_eq_nil_iff {m : Mapping} :
    Agent.configRefusals (m.value "config") = []
      ↔ (Workflow.mappingAt m "config").HasTextKeys := by
  rw [Workflow.mappingAt]
  cases m.value "config" with
  | map es => exact Mapping.refusals_eq_nil_iff
  | _ => simp [Agent.configRefusals, Data.entries?, Mapping.HasTextKeys]

def Request.carried : Request → Mapping
  | agentOptions _ options => Workflow.mappingAt options "config"
  | legacy es => Workflow.mappingAt es "config"
  | _ => []

theorem carried_eq (m : Mapping) : carried m = (request m).carried := by
  rw [carried, request]
  cases m.value "sandbox" with
  | map es =>
    simp only [requestIn]
    cases Mapping.value es "agent" with
    | bool b => cases b <;> rfl
    | text s => by_cases hs : s ∈ supportedSandboxTypes <;> simp [hs, Request.carried]
    | _ => rfl
  | bool b => cases b <;> rfl
  | text s => by_cases hs : s ∈ supportedSandboxTypes <;> simp [hs, Request.carried]
  | _ => rfl

theorem refusals_eq_nil_iff {m : Mapping} :
    (request m).refusals = [] ↔ (carried m).HasTextKeys := by
  have hnil : Mapping.HasTextKeys [] := nofun
  rw [carried_eq]
  cases request m with
  | agentOptions es options => exact configRefusals_eq_nil_iff
  | legacy es => exact configRefusals_eq_nil_iff
  | _ => exact iff_of_true rfl hnil

theorem ofFrontmatter_accepts_iff {m : Mapping} :
    (∃ s, ofFrontmatter m = .accepted s) ↔ (carried m).HasTextKeys := by
  rw [ofFrontmatter_eq_guarded, ← refusals_eq_nil_iff]
  constructor
  · rintro ⟨s, hs⟩
    exact (Verdict.guarded_eq_accepted hs).1
  · intro h
    rw [h]
    exact ⟨_, rfl⟩

end Sandbox

/-! ### Models -/

namespace SafeOutput

theorem Block.ofNamed_actions (b : Block) :
    ∃ c, Block.ofNamed (b.actions.map fun a => (a.kind.name, a)) = .accepted c
      ∧ c.actions = b.actions := by
  have hdistinct : Fields.Distinct (b.actions.map fun a => (a.kind.name, a)) := by
    have hnames : ((b.actions.map Action.kind).map Kind.name).Nodup :=
      b.distinct.map Kind.name_injective
    simpa [Fields.Distinct, Assoc.Distinct, List.map_map, Function.comp_def] using hnames
  have hnamed : Fields.ofList (b.actions.map fun a => (a.kind.name, a))
      = b.actions.map fun a => (a.kind.name, a) := Assoc.ofList_of_distinct id hdistinct
  have hrule : ((b.actions.map fun a => (a.kind.name, a)).map (·.2.kind)).Nodup
      ∧ (b.actions.map fun a => (a.kind.name, a)).all (fun e => e.1 == e.2.kind.name) = true := by
    refine ⟨?_, by simp⟩
    simpa [List.map_map, Function.comp_def] using b.distinct
  simp only [ofNamed, hnamed, dif_pos hrule]
  exact ⟨_, rfl, by simp [Function.comp_def]⟩

end SafeOutput

namespace Workflow

/-- Every model accepts what was read for it. -/
structure AcceptsReadings (m : Mapping) : Prop where
  network : ∀ n ∈ Network.ofFrontmatter? m, Network.ofRecord n.record = .accepted n
  permissions : ∀ p ∈ Permissions.ofData? (m.value "permissions"),
    Permissions.ofRecord p.record = .accepted p
  sandbox : ∀ s, Sandbox.ofFrontmatter m = .accepted (some s) →
    Sandbox.ofRecord s.record = .accepted s
  actions : ∀ b ∈ (Block.extract m).block, ∀ a ∈ b.actions,
    Action.ofRecord a.kind a.toData = .accepted a
  block : ∀ b ∈ (Block.extract m).block,
    ∃ c, Block.ofNamed (b.actions.map fun a => (a.kind.name, a)) = .accepted c
      ∧ c.actions = b.actions
  messages : ∀ b ∈ (Block.extract m).block, ∀ texts ∈ b.messages,
    Messages.ofRecord (.ofTextFields texts.toFields) = .accepted texts

theorem acceptsReadings (m : Mapping) : AcceptsReadings m := by
  constructor
  · intro n _
    exact n.ofRecord_record
  · intro p _
    exact p.ofRecord_record
  · intro s hs
    rw [Sandbox.ofFrontmatter_eq_guarded] at hs
    exact Sandbox.ofRecord_record (Sandbox.isBare_of_request (Verdict.guarded_eq_accepted hs).2)
  · intro b hb a ha
    exact (Block.isAccepted_of_mem_extract b hb a ha).ofRecord_toData
  · intro b _
    exact b.ofNamed_actions
  · intro b _ texts _
    exact texts.ofRecord_toFields

/-- The mappings that a workflow carries as they stand. -/
def carried (m : Mapping) : List Mapping :=
  [Sandbox.carried m, mappingAt m "tools", mappingAt m "mcp-servers"]

end Workflow

/-! ### Failures -/

def Failure.IsPolicyError (f : Failure) : Prop := ∃ e, f = .policy e

/-- A pass that ends with a value or with a policy error. -/
def Check.FailsCleanly {α : Type} (c : Check α) : Prop :=
  (∃ a, c.outcome = .ok a) ∨ ∃ e, c.outcome = .error (.policy e)

theorem Check.failsCleanly_iff {α : Type} {c : Check α} {e : Option Failure} {a : α}
    (h : c.outcome = Check.guarded e a) : c.FailsCleanly ↔ ∀ f ∈ e, f.IsPolicyError := by
  rw [FailsCleanly, h]
  cases e with
  | none => simp [guarded]
  | some f => simp [guarded, Failure.IsPolicyError]

namespace Workflow

theorem isPolicyError_passFailure? (settings : Settings) (w : Workflow) :
    ∀ f ∈ passFailure? settings w, f.IsPolicyError := by
  intro f hf
  rw [passFailure?, Option.mem_def, Option.or_eq_some_iff, Option.or_eq_some_iff,
    Option.or_eq_some_iff] at hf
  rcases hf with hsandbox | ⟨-, hfirewall | ⟨-, hsupport | ⟨-, hstrict⟩⟩⟩
  · obtain ⟨v, -, rfl⟩ := Option.map_eq_some_iff.mp hsandbox
    exact ⟨_, rfl⟩
  · obtain ⟨v, -, rfl⟩ := Option.map_eq_some_iff.mp hfirewall
    exact ⟨_, rfl⟩
  · rw [Network.supportFailure?] at hsupport
    split at hsupport
    · obtain rfl := Option.some.inj hsupport
      exact ⟨_, rfl⟩
    · cases hsupport
  · rw [strictFailure?] at hstrict
    split at hstrict
    · obtain ⟨v, -, rfl⟩ := Option.map_eq_some_iff.mp hstrict
      exact ⟨_, rfl⟩
    · cases hstrict

theorem toolRefusals_eq_nil_iff {m : Mapping} :
    toolRefusals m = [] ↔ (mappingAt m "tools").HasTextKeys
      ∧ (mappingAt m "mcp-servers").HasTextKeys := by
  rw [toolRefusals, List.append_eq_nil_iff, Mapping.refusals_eq_nil_iff,
    Mapping.refusals_eq_nil_iff]

/-- What keeps the checks from ending with a result or a policy error: a number that is
    too long in a part that is read before the safe outputs are looked at, or, unless one of
    them is rejected, such a number or a key that is no text in a later part. -/
structure ReadsCleanly (m : Mapping) : Prop where
  network : Network.isOverlong m = false
  safeOutputs : Block.isOverlong m = false
  permissions : rejectedKind? m = none → Permissions.isOverlong (m.value "permissions") = false
  sandbox : rejectedKind? m = none → Sandbox.isOverlong (m.value "sandbox") = false
  keys : rejectedKind? m = none → ∀ c ∈ carried m, c.HasTextKeys

theorem readsCleanly_iff {m : Mapping} :
    ReadsCleanly m ↔ Network.isOverlong m = false ∧ Block.isOverlong m = false
      ∧ (rejectedKind? m = none → Permissions.isOverlong (m.value "permissions") = false
        ∧ Sandbox.isOverlong (m.value "sandbox") = false
        ∧ (Sandbox.request m).refusals = [] ∧ toolRefusals m = []) := by
  have hcarried : (∀ c ∈ carried m, c.HasTextKeys)
      ↔ (Sandbox.request m).refusals = [] ∧ toolRefusals m = [] := by
    rw [Sandbox.refusals_eq_nil_iff, toolRefusals_eq_nil_iff]
    simp [carried]
  constructor
  · rintro ⟨hnetwork, hblock, hpermissions, hsandbox, hkeys⟩
    exact ⟨hnetwork, hblock,
      fun h => ⟨hpermissions h, hsandbox h, hcarried.mp (hkeys h)⟩⟩
  · rintro ⟨hnetwork, hblock, hlater⟩
    exact ⟨hnetwork, hblock, fun h => (hlater h).1, fun h => (hlater h).2.1,
      fun h => hcarried.mpr (hlater h).2.2⟩

theorem isPolicyError_or_iff {e e' : Option Failure} :
    (∀ f ∈ e.or e', f.IsPolicyError)
      ↔ (∀ f ∈ e, f.IsPolicyError) ∧ (e = none → ∀ f ∈ e', f.IsPolicyError) := by
  cases e <;> simp

theorem isPolicyError_overlong? {isOverlong : Bool} :
    (∀ f ∈ Check.overlong? isOverlong, f.IsPolicyError) ↔ isOverlong = false := by
  cases isOverlong <;> simp [Check.overlong?, Failure.IsPolicyError]

theorem isPolicyError_refusal? {rs : List Refusal} :
    (∀ f ∈ Check.refusal? rs, f.IsPolicyError) ↔ rs = [] := by
  cases rs <;> simp [Check.refusal?, Failure.IsPolicyError]

theorem isPolicyError_rejection? (m : Mapping) : ∀ f ∈ rejection? m, f.IsPolicyError := by
  intro f hf
  obtain ⟨k, -, rfl⟩ := Option.map_eq_some_iff.mp hf
  exact ⟨_, rfl⟩

theorem isPolicyError_failure?_iff {settings : Settings} {asked : Option Bool} {m : Mapping} :
    (∀ f ∈ failure? settings asked m, f.IsPolicyError) ↔ ReadsCleanly m := by
  have hpasses := isPolicyError_passFailure? settings (reading settings asked m)
  have hrejection := isPolicyError_rejection? m
  have hnone : rejection? m = none ↔ rejectedKind? m = none := Option.map_eq_none_iff
  rw [failure?, readingFailure?, headFailure?, readsCleanly_iff]
  simp only [isPolicyError_or_iff, isPolicyError_overlong?, isPolicyError_refusal?,
    Option.or_eq_none_iff, Check.overlong?_eq_none_iff, Check.refusal?_eq_none_iff, hnone]
  generalize Permissions.isOverlong (m.value "permissions") = permissions
  generalize Sandbox.isOverlong (m.value "sandbox") = sandbox
  generalize Network.isOverlong m = network
  generalize Block.isOverlong m = block
  tauto

/-- The readers of the parts fail for numbers that are too long, that of the sandbox for a
    key that is no text, too, and for nothing else. -/
structure FailsExactly (m : Mapping) : Prop where
  network : (∃ n, (Network.read m).outcome = .ok n) ↔ Network.isOverlong m = false
  safeOutputs : (∃ x, (Block.read m).outcome = .ok x) ↔ Block.isOverlong m = false
  permissions : (∃ p, (Permissions.read (m.value "permissions")).outcome = .ok p)
    ↔ Permissions.isOverlong (m.value "permissions") = false
  sandbox : (∃ s, (Sandbox.read m).outcome = .ok s)
    ↔ Sandbox.isOverlong (m.value "sandbox") = false ∧ (Sandbox.carried m).HasTextKeys

theorem failsExactly (m : Mapping) : FailsExactly m where
  network := by
    rw [Network.read_outcome, Check.exists_guarded_iff, Check.overlong?_eq_none_iff]
  safeOutputs := by
    rw [Block.read_outcome, Check.exists_guarded_iff, Check.overlong?_eq_none_iff]
  permissions := by
    rw [Permissions.read_outcome, Check.exists_guarded_iff, Check.overlong?_eq_none_iff]
  sandbox := by
    rw [Sandbox.read_outcome, Check.exists_guarded_iff, Option.or_eq_none_iff,
      Check.overlong?_eq_none_iff, Check.refusal?_eq_none_iff, Sandbox.refusals_eq_nil_iff]

end Workflow

namespace Policy

/-- **Which compilations fail cleanly.**  Every model accepts what was read for it, and the
    readers fail for numbers that are too long and keys that are no texts.  Validation and
    compilation end with a result or with a policy error unless such a number or key
    stands in a part that is read; when all checks pass, the policy has to fit into text,
    too. -/
theorem compile_failsCleanly (settings : Settings) (asked : Option Bool) (m : Mapping) :
    Workflow.AcceptsReadings m ∧ Workflow.FailsExactly m
      ∧ ((Workflow.validate settings asked m).FailsCleanly ↔ Workflow.ReadsCleanly m)
      ∧ ((compile settings asked m).FailsCleanly ↔ Workflow.ReadsCleanly m
        ∧ ((∃ w, (Workflow.validate settings asked m).outcome = .ok w) →
          derivesOverlong settings asked m = false)) := by
  have hvalidate := Workflow.validate_guarded settings asked m
  refine ⟨Workflow.acceptsReadings m, Workflow.failsExactly m, ?_, ?_⟩
  · rw [Check.failsCleanly_iff hvalidate]
    exact Workflow.isPolicyError_failure?_iff
  · rw [Check.failsCleanly_iff (compile_guarded settings asked m), failure?,
      Workflow.isPolicyError_or_iff, Workflow.isPolicyError_failure?_iff,
      Workflow.isPolicyError_overlong?, hvalidate, Check.exists_guarded_iff]

def numberedTools : Mapping := [(.text "tools", .map [(.int 1, .text "x")])]

def numberedSettings : Mapping :=
  [(.text "sandbox", .map [(.text "config", .map [(.int 1, .text "x")])])]

/-- A number for a key among the tools ends in refused data, and so does one among the
    settings of the sandbox, which is not even read. -/
theorem compile_numberedKeys :
    ¬ (compile {} none numberedTools).FailsCleanly
      ∧ ¬ (compile {} none numberedSettings).FailsCleanly
      ∧ ¬ ∃ s, Sandbox.ofFrontmatter numberedSettings = .accepted s := by
  have hkeys : ¬ Mapping.HasTextKeys [(.int 1, .text "x")] := by
    intro h
    exact h _ (List.mem_singleton_self _)
  refine ⟨?_, ?_, ?_⟩
  · rw [Check.failsCleanly_iff (compile_guarded {} none numberedTools), failure?,
      Workflow.isPolicyError_or_iff, Workflow.isPolicyError_failure?_iff]
    intro h
    exact hkeys (h.1.keys rfl _ (.tail _ (.head _)))
  · rw [Check.failsCleanly_iff (compile_guarded {} none numberedSettings), failure?,
      Workflow.isPolicyError_or_iff, Workflow.isPolicyError_failure?_iff]
    intro h
    exact hkeys (h.1.keys rfl _ (.head _))
  · rw [Sandbox.ofFrontmatter_accepts_iff]
    exact hkeys

end Policy

end WorkflowPolicy
