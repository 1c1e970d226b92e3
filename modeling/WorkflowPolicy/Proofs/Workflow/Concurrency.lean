/-
  WorkflowPolicy/Proofs/Workflow/Concurrency.lean
  ===============================================
  **The groups of a policy.**  A group that the author has written comes out as it is: a
  name as a group of this name, and a mapping unchanged.  Without one, the group of the
  workflow follows from the trigger alone, and the job gets a group of its own where
  nothing binds a run and an engine is named (`compile_groupsFollow`).

  The trigger is looked at for commands and for events, as `Trigger.HasCommand` and
  `Trigger.Names` state; the engine is named as `Workflow.RunsOn` says.
-/
import WorkflowPolicy.Proofs.Trigger
import WorkflowPolicy.Proofs.Workflow.Spelling

namespace WorkflowPolicy

/-! ### Engines -/

namespace Workflow

/-- The engine that a frontmatter value names.  Null and a mapping without an identifier
    leave it to the default. -/
inductive RunsOn : Data → Text → Prop where
  | unset : RunsOn .null defaultEngine
  | named {id : Text} (h : id ≠ "") : RunsOn (.text id) id
  | configured {es : Mapping} {id : Text} (hid : es.value "id" = .text id) (h : id ≠ "") :
    RunsOn (.map es) id
  | unnamed {es : Mapping} (h : ∀ id, es.value "id" = .text id → id = "") :
    RunsOn (.map es) defaultEngine

def engineBlock : Data → Data
  | .map es => Mapping.value es "concurrency"
  | _ => .null

theorem engineOf_snd (d : Data) : (engineOf d).2 = engineBlock d := by
  cases d <;> rfl

theorem defaultEngine_ne_empty : defaultEngine ≠ "" := by
  decide

/-- A mapping names an engine by an identifier that is not empty, and else the default. -/
theorem engineOf_map_fst (es : Mapping) :
    (∃ id, es.value "id" = .text id ∧ id ≠ "" ∧ (engineOf (.map es)).1 = some id)
      ∨ (∀ id, es.value "id" = .text id → id = "")
        ∧ (engineOf (.map es)).1 = some defaultEngine := by
  have hfst : (engineOf (.map es)).1
      = some (if ((es.value "id").text?).getD "" = "" then defaultEngine
          else ((es.value "id").text?).getD "") := rfl
  rw [hfst]
  cases hvalue : es.value "id" with
  | text id =>
    by_cases hid : id = ""
    · refine .inr ⟨?_, congrArg some (if_pos hid)⟩
      rintro id' ⟨⟩
      exact hid
    · exact .inl ⟨id, rfl, hid, congrArg some (if_neg hid)⟩
  | _ => exact .inr ⟨nofun, rfl⟩

theorem runsOn_iff {d : Data} {id : Text} :
    RunsOn d id ↔ (engineOf d).1 = some id ∧ id ≠ "" := by
  constructor
  · intro h
    cases h with
    | unset => exact ⟨rfl, defaultEngine_ne_empty⟩
    | named h => exact ⟨rfl, h⟩
    | @configured es id hid h =>
      refine ⟨?_, h⟩
      rcases engineOf_map_fst es with ⟨id', hid', -, hengine⟩ | ⟨hempty, -⟩
      · obtain rfl := Data.text.inj (hid.symm.trans hid')
        exact hengine
      · exact (h (hempty id hid)).elim
    | @unnamed es h =>
      refine ⟨?_, defaultEngine_ne_empty⟩
      rcases engineOf_map_fst es with ⟨id', hid', hne, -⟩ | ⟨-, hengine⟩
      · exact (hne (h id' hid')).elim
      · exact hengine
  · rintro ⟨hengine, hid⟩
    cases d with
    | null =>
      obtain rfl := Option.some.inj hengine
      exact .unset
    | text s =>
      obtain rfl := Option.some.inj hengine
      exact .named hid
    | map es =>
      rcases engineOf_map_fst es with ⟨id', hid', hne, hsome⟩ | ⟨hempty, hsome⟩
      · obtain rfl := Option.some.inj (hsome.symm.trans hengine)
        exact .configured hid' hne
      · obtain rfl := Option.some.inj (hsome.symm.trans hengine)
        exact .unnamed hempty
    | _ => cases hengine

/-! ### Commands -/

theorem isCommand_reading {settings : Settings} {asked : Option Bool} {m : Mapping} :
    (reading settings asked m).isCommand = true ↔ Trigger.HasCommand (triggerOf m) := by
  have hnames : (reading settings asked m).isCommand
      = !(Trigger.commandNames (triggerOf m)).isEmpty := rfl
  rw [hnames, Bool.not_eq_true', Bool.eq_false_iff, ne_eq, List.isEmpty_iff]
  exact Trigger.commandNames_ne_nil

end Workflow

/-! ### Groups -/

namespace Concurrency

/-- What becomes of a group that the author has written. -/
inductive PassesThrough : Data → Data → Prop where
  | name {g : Text} (h : g ≠ "") : PassesThrough (.text g) (.ofFields [("group", .text g)])
  | block {es : Mapping} (h : es ≠ []) : PassesThrough (.map es) (.map es)

theorem toData_of_passesThrough {own d : Data} (h : PassesThrough own d) :
    ∃ c, explicit? own = some c ∧ c.toData = d := by
  cases h with
  | name h => exact ⟨_, if_neg h, rfl⟩
  | block h =>
    rename_i es
    cases es with
    | nil => exact absurd rfl h
    | cons e es => exact ⟨_, rfl, rfl⟩

theorem explicit?_eq_none {own : Data} (h : ¬ Declares own) : explicit? own = none := by
  by_contra hsome
  exact h (explicit?_ne_none_iff.mp hsome)

/-- The group of a workflow that declares none: a command adds the number of the issue or
    pull request. -/
def IsGroupOf (on : Data) (group : Text) : Prop :=
  (¬ Trigger.HasCommand on ∧ group = "gh-aw-$\x7b\x7b github.workflow \x7d\x7d")
    ∨ Trigger.HasCommand on ∧ group = "gh-aw-$\x7b\x7b github.workflow \x7d\x7d"
      ++ "-$\x7b\x7b github.event.issue.number || github.event.pull_request.number \x7d\x7d"

def impliedData (group : Text) (cancels : Bool) : Data :=
  .ofFields [("group", .text group), ("cancel-in-progress", .bool cancels)]

section Implied

variable {on own : Data} {isCommand : Bool} {engine : Option Text}
  (hcommand : isCommand = true ↔ Trigger.HasCommand on)

include hcommand

theorem isGroupOf_implied : IsGroupOf on (implied on isCommand).group := by
  cases isCommand with
  | false =>
    refine .inl ⟨fun h => Bool.false_ne_true (hcommand.mpr h), ?_⟩
    show Text.intercalate "-" ([groupStart, workflowKey] ++ []) = _
    decide +kernel
  | true =>
    refine .inr ⟨hcommand.mp rfl, ?_⟩
    show Text.intercalate "-" ([groupStart, workflowKey] ++ [entityKey]) = _
    decide +kernel

theorem cancelInProgress_implied :
    (implied on isCommand).cancelInProgress = true ↔ ¬ Trigger.HasCommand on
      ∧ ∃ e, Trigger.Names on e ∧ ("pull_request" : Text).isPrefixOf e = true := by
  rw [implied, Bool.and_eq_true, Bool.not_eq_true', Trigger.isPullRequest_iff, ← hcommand,
    Bool.not_eq_true]

theorem ofJob_eq_none_iff (hown : explicit? own = none) :
    ofJob on isCommand engine own = none ↔ Trigger.HasCommand on
      ∨ (∃ e, Trigger.Names on e ∧ Trigger.Binds e) ∨ engine.getD "" = "" := by
  rw [← hcommand, ← Trigger.isBound_iff]
  unfold ofJob
  rw [hown]
  cases isCommand with
  | true => simp
  | false =>
    cases Trigger.isBound on with
    | true => simp
    | false =>
      cases engine with
      | none => simp
      | some e => by_cases he : e = "" <;> simp [he]

end Implied

theorem jobGroup_eq (id : Text) : groupStart ++ "-" ++ id ++ "-" ++ workflowKey
    = "gh-aw-" ++ id ++ "-$\x7b\x7b github.workflow \x7d\x7d" := by
  have hstart : groupStart ++ "-" = "gh-aw-" := by decide
  have hend : "-" ++ workflowKey = "-$\x7b\x7b github.workflow \x7d\x7d" := by decide
  rw [hstart, Text.append_assoc, hend]

theorem toData_ofJob {on own : Data} {isCommand : Bool} {engine : Option Text}
    {c : Concurrency} (hown : explicit? own = none) (h : ofJob on isCommand engine own = some c) :
    ∃ id, engine = some id ∧ id ≠ "" ∧ c.toData
      = impliedData ("gh-aw-" ++ id ++ "-$\x7b\x7b github.workflow \x7d\x7d") false := by
  unfold ofJob at h
  rw [hown] at h
  -- a bound run gets no group for its job
  by_cases hbound : (isCommand || Trigger.isBound on) = true
  · rw [if_pos hbound] at h
    cases h
  · rw [if_neg hbound] at h
    cases engine with
    | none => cases h
    | some id =>
      by_cases hid : id = ""
      · rw [hid] at h
        cases h
      · have hc : some ({ group := groupStart ++ "-" ++ id ++ "-" ++ workflowKey } : Concurrency)
            = some c := by
          simpa [hid] using h
        obtain rfl := Option.some.inj hc
        refine ⟨id, rfl, hid, ?_⟩
        rw [← jobGroup_eq]
        rfl

end Concurrency

/-! ### The groups of a policy -/

namespace Policy

open Concurrency (Declares PassesThrough IsGroupOf impliedData)
open Workflow (RunsOn engineBlock engineOf triggerOf)

/-- How the groups of a policy follow from the frontmatter. -/
structure GroupsFollow (m : Mapping) (p : Policy) : Prop where
  declared : ∀ d, PassesThrough (m.value "concurrency") d → p.concurrency.toData = d
  /-- Runs of pull requests are cancelled, but never those of a command. -/
  implied : ¬ Declares (m.value "concurrency") → ∃ group cancels,
    p.concurrency.toData = impliedData group cancels ∧ IsGroupOf (triggerOf m) group
      ∧ (cancels = true ↔ ¬ Trigger.HasCommand (triggerOf m)
        ∧ ∃ e, Trigger.Names (triggerOf m) e ∧ ("pull_request" : Text).isPrefixOf e = true)
  jobDeclared : ∀ d, PassesThrough (engineBlock (m.value "engine")) d →
    p.jobConcurrency.map Concurrency.toData = some d
  /-- No group of the job where something else binds the run or no engine is named. -/
  jobNone : ¬ Declares (engineBlock (m.value "engine")) →
    (p.jobConcurrency = none ↔ Trigger.HasCommand (triggerOf m)
      ∨ (∃ e, Trigger.Names (triggerOf m) e ∧ Trigger.Binds e)
      ∨ ¬ ∃ id, RunsOn (m.value "engine") id)
  jobImplied : ¬ Declares (engineBlock (m.value "engine")) → ∀ c ∈ p.jobConcurrency,
    ∃ id, RunsOn (m.value "engine") id
      ∧ c.toData = impliedData ("gh-aw-" ++ id ++ "-$\x7b\x7b github.workflow \x7d\x7d") false

/-- **The groups of a policy** are the author's own, or follow from the trigger and the
    engine. -/
theorem compile_groupsFollow {settings : Settings} {asked : Option Bool} {m : Mapping}
    {p : Policy} (h : (compile settings asked m).outcome = .ok p) : p.GroupsFollow m := by
  obtain ⟨-, rfl⟩ := compile_eq_ok_iff.mp h
  obtain ⟨isCommand, hw⟩ : ∃ b, b = (Workflow.reading settings asked m).isCommand := ⟨_, rfl⟩
  have hcommand : isCommand = true ↔ Trigger.HasCommand (triggerOf m) := by
    rw [hw]
    exact Workflow.isCommand_reading
  have hgroup : (ofWorkflow settings
      (Workflow.ready settings (Workflow.reading settings asked m))).concurrency
      = Concurrency.ofWorkflow (triggerOf m) isCommand (m.value "concurrency") := by
    rw [hw]
    rfl
  have hjob : (ofWorkflow settings
      (Workflow.ready settings (Workflow.reading settings asked m))).jobConcurrency
      = Concurrency.ofJob (triggerOf m) isCommand (engineOf (m.value "engine")).1
          (engineBlock (m.value "engine")) := by
    rw [hw, ← Workflow.engineOf_snd]
    rfl
  constructor
  · intro d hd
    obtain ⟨c, hc, rfl⟩ := Concurrency.toData_of_passesThrough hd
    rw [hgroup, Concurrency.ofWorkflow, hc]
    rfl
  · intro hnone
    rw [hgroup, Concurrency.ofWorkflow, Concurrency.explicit?_eq_none hnone]
    exact ⟨_, _, rfl, Concurrency.isGroupOf_implied hcommand,
      Concurrency.cancelInProgress_implied hcommand⟩
  · intro d hd
    obtain ⟨c, hc, rfl⟩ := Concurrency.toData_of_passesThrough hd
    rw [hjob]
    unfold Concurrency.ofJob
    rw [hc]
    rfl
  · intro hnone
    rw [hjob, Concurrency.ofJob_eq_none_iff hcommand (Concurrency.explicit?_eq_none hnone)]
    simp only [Workflow.runsOn_iff]
    cases (engineOf (m.value "engine")).1 with
    | none => simp
    | some id => simp
  · intro hnone c hc
    rw [hjob] at hc
    obtain ⟨id, hengine, hid, hdata⟩ :=
      Concurrency.toData_ofJob (Concurrency.explicit?_eq_none hnone) hc
    exact ⟨id, Workflow.runsOn_iff.mpr ⟨hengine, hid⟩, hdata⟩

/-- A command without a value, on a trigger with a number for a key, and an engine that has
    no group of its own. -/
def commandFrontmatter : Mapping :=
  [(.text "on", .map [(.int 7, .null), (.text "pull_request", .null),
      (.text "slash_command", .null)]),
   (.text "engine", .map [(.text "id", .text "claude"), (.text "concurrency", .text "")])]

theorem compile_groupsFollow_command :
    ∃ p, (compile {} none commandFrontmatter).outcome = .ok p
      ∧ p.concurrency.cancelInProgress = false ∧ p.jobConcurrency = none
      ∧ p.GroupsFollow commandFrontmatter := by
  have hnone : failure? {} none commandFrontmatter = none := by decide +kernel
  have hok := compile_eq_ok_iff.mpr ⟨hnone, rfl⟩
  exact ⟨_, hok, by decide +kernel, by decide +kernel, compile_groupsFollow hok⟩

end Policy

end WorkflowPolicy
