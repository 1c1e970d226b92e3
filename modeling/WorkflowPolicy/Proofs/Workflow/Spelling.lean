/-
  WorkflowPolicy/Proofs/Workflow/Spelling.lean
  ============================================
  **Three spellings of a trigger.**  The events that start a workflow are given as a list,
  as a mapping without options, or, if there is one only, by its name.  All spellings name
  the same events (`Trigger.events_of_spells`), so what follows from the events does not
  depend on the spelling, and neither does any check.

  Commands are looked for in a mapping and nowhere else.  Two spellings of the same events
  have the same groups unless one of them shows a command and the other does not; then the
  groups differ except where the author has written them (`Policy.compile_respelled`).  A
  command in a list even gets its runs cancelled like those of a pull request
  (`Policy.compile_listedCommand`).
-/
import WorkflowPolicy.Proofs.Workflow.Parts

namespace WorkflowPolicy

/-! ### Spellings -/

namespace Trigger

/-- A trigger block that says which events start the workflow, and no more. -/
inductive Spells (es : List Text) : Data → Prop where
  | list : Spells es (.list (es.map .text))
  | mapping : Spells es (.map (es.map fun e => (.text e, .null)))
  | bare {e : Text} (h : es = [e]) : Spells es (.text e)

/-- The command that the events name can be seen in a spelling. -/
def ShowsCommand (es : List Text) (on : Data) : Prop :=
  (∃ options, on = .map options) ∧ ∃ key ∈ commandKeys, key ∈ es

variable {es : List Text} {on on' : Data}

theorem events_of_spells (h : Spells es on) : events on = es := by
  cases h with
  | list => simp [events, eventText?, List.filterMap_map, Function.comp_def]
  | mapping => simp [events, Function.comp_def]
  | bare h => rw [events, h]

/-- Events are named by texts. -/
theorem isOverlong_of_spells (h : Spells es on) : isOverlong on = false := by
  cases h with
  | list => rfl
  | mapping =>
    rw [isOverlong, List.any_map]
    exact List.any_eq_false.mpr fun _ _ => by simp [Data.isShowable]
  | bare h => rfl

theorem get?_mapping (es : List Text) (key : Text) :
    Mapping.get? (es.map fun e => (Data.text e, Data.null)) key
      = if key ∈ es then some .null else none := by
  induction es with
  | nil => rfl
  | cons e es ih =>
    rw [Mapping.get?] at ih ⊢
    rw [List.map_cons, Assoc.get?_cons, ih]
    by_cases he : e = key
    · simp [he]
    · simp [he, Ne.symm he]

theorem commandNames_mapping_eq_nil :
    commandNames (.map (es.map fun e => (.text e, .null))) = []
      ↔ ∀ key ∈ commandKeys, key ∉ es := by
  rw [commandNames, List.flatMap_eq_nil_iff]
  refine forall₂_congr ?_
  intro key _
  rw [get?_mapping]
  by_cases hkey : key ∈ es
  · simp [hkey, namesOf]
  · simp [hkey]

/-- A workflow counts as one of a command when its spelling shows the command. -/
theorem isCommand_iff (h : Spells es on) :
    (!(commandNames on).isEmpty) = true ↔ ShowsCommand es on := by
  rw [Bool.not_eq_true', Bool.eq_false_iff, ne_eq, List.isEmpty_iff, ShowsCommand]
  cases h with
  | list => simp [commandNames]
  | mapping =>
    rw [commandNames_mapping_eq_nil]
    push Not
    exact ⟨fun hkey => ⟨⟨_, rfl⟩, hkey⟩, fun hshown => hshown.2⟩
  | bare h => simp [commandNames]

theorem isPullRequest_congr (h : events on = events on') :
    isPullRequest on = isPullRequest on' := by
  rw [isPullRequest, isPullRequest, h]

theorem isBound_congr (h : events on = events on') : isBound on = isBound on' := by
  rw [isBound, isBound, isIssue, isIssue, isPullRequest_congr h, isDiscussion, isDiscussion, isPush,
    isPush, h]

end Trigger

/-! ### Groups -/

namespace Concurrency

/-- The author has written a group: by its name, or by a block. -/
def Declares (d : Data) : Prop :=
  (∃ s, d = .text s ∧ s ≠ "") ∨ ∃ es, d = .map es ∧ es ≠ []

theorem explicit?_ne_none_iff {d : Data} : explicit? d ≠ none ↔ Declares d := by
  cases d with
  | text s => by_cases hs : s = "" <;> simp [explicit?, Declares, hs]
  | map es => cases es <;> simp [explicit?, Declares]
  | _ => simp [explicit?, Declares]

/-- The groups of a workflow and of its job. -/
structure Same (c c' : Concurrency) (job job' : Option Concurrency) : Prop where
  group : c.group = c'.group
  cancelInProgress : c.cancelInProgress = c'.cancelInProgress
  job : job = job'

theorem implied_congr {on on' : Data} (h : Trigger.events on = Trigger.events on')
    (isCommand : Bool) : implied on isCommand = implied on' isCommand := by
  rw [implied, implied, Trigger.isPullRequest_congr h]

/-- The number of the issue or pull request tells the groups of commands apart. -/
theorem group_implied_ne (on on' : Data) :
    (implied on true).group ≠ (implied on' false).group := by
  show Text.intercalate "-" ([groupStart, workflowKey] ++ [entityKey])
    ≠ Text.intercalate "-" ([groupStart, workflowKey] ++ [])
  decide +kernel

section Groups

variable {on on' : Data} {engine : Option Text} {own engineOwn : Data}

theorem same_of_isCommand_eq (h : Trigger.events on = Trigger.events on') (isCommand : Bool) :
    Same (ofWorkflow on isCommand own) (ofWorkflow on' isCommand own)
      (ofJob on isCommand engine engineOwn) (ofJob on' isCommand engine engineOwn) := by
  have hworkflow : ofWorkflow on isCommand own = ofWorkflow on' isCommand own := by
    rw [ofWorkflow, ofWorkflow, implied_congr h]
  constructor
  · rw [hworkflow]
  · rw [hworkflow]
  · unfold ofJob
    rw [Trigger.isBound_congr h]

theorem ofJob_command_eq_iff :
    ofJob on true engine engineOwn = ofJob on' false engine engineOwn
      ↔ Declares engineOwn ∨ Trigger.isBound on' = true ∨ engine.getD "" = "" := by
  rw [← explicit?_ne_none_iff]
  unfold ofJob
  cases explicit? engineOwn with
  | some c => simp
  | none =>
    cases Trigger.isBound on' with
    | true => simp
    | false =>
      cases engine with
      | none => simp
      | some e => by_cases he : e = "" <;> simp [he]

/-- With and without a command the groups are the same only where they are the author's. -/
theorem same_command_iff :
    Same (ofWorkflow on true own) (ofWorkflow on' false own) (ofJob on true engine engineOwn)
        (ofJob on' false engine engineOwn)
      ↔ Declares own
        ∧ (Declares engineOwn ∨ Trigger.isBound on' = true ∨ engine.getD "" = "") := by
  rw [← ofJob_command_eq_iff, ← explicit?_ne_none_iff, ofWorkflow, ofWorkflow]
  cases explicit? own with
  | some c =>
    constructor
    · intro hsame
      exact ⟨Option.some_ne_none c, hsame.job⟩
    · rintro ⟨-, hjob⟩
      exact ⟨rfl, rfl, hjob⟩
  | none =>
    constructor
    · intro hsame
      exact absurd hsame.group (group_implied_ne on on')
    · rintro ⟨hnone, -⟩
      exact absurd rfl hnone

theorem Same.symm {c c' : Concurrency} {job job' : Option Concurrency} (h : Same c c' job job') :
    Same c' c job' job :=
  ⟨h.group.symm, h.cancelInProgress.symm, h.job.symm⟩

theorem same_iff (h : Trigger.events on = Trigger.events on') (isCommand isCommand' : Bool) :
    Same (ofWorkflow on isCommand own) (ofWorkflow on' isCommand' own)
        (ofJob on isCommand engine engineOwn) (ofJob on' isCommand' engine engineOwn)
      ↔ isCommand = isCommand' ∨ Declares own
        ∧ (Declares engineOwn ∨ Trigger.isBound on = true ∨ engine.getD "" = "") := by
  cases isCommand with
  | false =>
    cases isCommand' with
    | false => exact ⟨fun _ => .inl rfl, fun _ => same_of_isCommand_eq h false⟩
    | true =>
      have hiff : Same (ofWorkflow on' true own) (ofWorkflow on false own)
          (ofJob on' true engine engineOwn) (ofJob on false engine engineOwn) ↔ _ :=
        same_command_iff
      simp only [Bool.false_eq_true, false_or]
      rw [← hiff]
      exact ⟨Same.symm, Same.symm⟩
  | true =>
    cases isCommand' with
    | false =>
      simp only [Bool.true_eq_false, false_or]
      rw [Trigger.isBound_congr h]
      exact same_command_iff
    | true => exact ⟨fun _ => .inl rfl, fun _ => same_of_isCommand_eq h true⟩

end Groups

end Concurrency

/-! ### Workflows with another trigger -/

namespace Workflow

def withTrigger (w : Workflow) (on : Data) : Workflow :=
  { w with trigger := on, commands := Trigger.commandNames on }

variable (settings : Settings) (asked : Option Bool) (m : Mapping) (on : Data)

theorem triggerOf_insert : triggerOf (m.insert "on" on) = on := by
  rw [triggerOf, Mapping.get?_insert_self]

theorem sameParts_insert : SameParts (m.insert "on" on) m := by
  constructor
  · intro key hkey
    apply Mapping.get?_insert_of_ne
    rintro rfl
    exact absurd hkey (by decide)
  · rw [SafeOutput.Block.extract, SafeOutput.Block.extract, Mapping.value_insert_of_ne (by decide)]
  · rw [SafeOutput.Block.isOverlong, SafeOutput.Block.isOverlong,
      Mapping.value_insert_of_ne (by decide)]

/-- The trigger block has a place of its own in the workflow. -/
theorem reading_insert :
    reading settings asked (m.insert "on" on) = (reading settings asked m).withTrigger on := by
  rw [(sameParts_insert m on).reading_eq, triggerOf_insert]
  rfl

end Workflow

/-! ### Two spellings -/

namespace Policy

open Trigger (Spells ShowsCommand)
open Concurrency (Declares)

def SameConcurrency (p q : Policy) : Prop :=
  Concurrency.Same p.concurrency q.concurrency p.jobConcurrency q.jobConcurrency

theorem compile_insert_eq_ok {settings : Settings} {asked : Option Bool} {m : Mapping} {on : Data}
    {p : Policy} (h : (compile settings asked (m.insert "on" on)).outcome = .ok p) :
    p = ofWorkflow settings
      ((Workflow.ready settings (Workflow.reading settings asked m)).withTrigger on) := by
  obtain ⟨-, rfl⟩ := compile_eq_ok_iff.mp h
  rw [Workflow.reading_insert]
  rfl

/-- Events have names that are texts, so a group never puts a number of theirs into text. -/
theorem failure?_insert {es : List Text} {on : Data} (hon : Spells es on) (settings : Settings)
    (asked : Option Bool) (m : Mapping) :
    failure? settings asked (m.insert "on" on)
      = (Workflow.failure? settings asked m).or (Check.overlong?
          ((SafeOutput.Plan.compile settings.trialMode
              (SafeOutput.Block.extract m).block).isOverlong
            || Concurrency.isOverlong (m.value "concurrency")
            || Concurrency.isOverlong (Workflow.engineOf (m.value "engine")).2)) := by
  have hgroup : ∀ isCommand explicit,
      Concurrency.isOverlongFor on isCommand explicit = Concurrency.isOverlong explicit := by
    intro isCommand explicit
    rw [Concurrency.isOverlongFor, Trigger.isOverlong_of_spells hon, Bool.and_false, Bool.or_false]
  rw [failure?, (Workflow.sameParts_insert m on).failure?_eq, derivesOverlong,
    Workflow.reading_insert, isOverlong, Workflow.withTrigger, hgroup, hgroup]
  rfl

/-- Two spellings of one trigger. -/
structure Respelled (es : List Text) (on on' : Data) (p q : Policy) : Prop where
  /-- The groups are the same, unless a command shows in one spelling alone. -/
  same : p.SameConcurrency q ↔ (ShowsCommand es on ↔ ShowsCommand es on')
    ∨ Declares p.workflow.concurrency ∧ (Declares p.workflow.engineConcurrency
      ∨ Trigger.isBound on = true ∨ p.workflow.engine.getD "" = "")
  /-- Without a group of the author's, runs of pull requests are cancelled, except where a
      command shows. -/
  cancels : ¬ Declares p.workflow.concurrency →
    (p.concurrency.cancelInProgress = true
      ↔ (∃ e ∈ es, ("pull_request" : Text).isPrefixOf e = true) ∧ ¬ ShowsCommand es on)

/-- **The spelling of a trigger** decides no check.  It decides the groups only where it
    shows or hides a command. -/
theorem compile_respelled {es : List Text} {on on' : Data} (hon : Spells es on)
    (hon' : Spells es on') (settings : Settings) (asked : Option Bool) (m : Mapping) :
    (∀ e, (compile settings asked (m.insert "on" on)).outcome = .error e
      ↔ (compile settings asked (m.insert "on" on')).outcome = .error e)
    ∧ ∀ p q, (compile settings asked (m.insert "on" on)).outcome = .ok p →
      (compile settings asked (m.insert "on" on')).outcome = .ok q → Respelled es on on' p q := by
  have hevents : Trigger.events on = Trigger.events on' := by
    rw [Trigger.events_of_spells hon, Trigger.events_of_spells hon']
  constructor
  · intro e
    rw [compile_guarded, compile_guarded, failure?_insert hon, failure?_insert hon']
    cases Option.or _ _ <;> simp [Check.guarded]
  · intro p q hp hq
    obtain rfl := compile_insert_eq_ok hp
    obtain rfl := compile_insert_eq_ok hq
    generalize Workflow.ready settings (Workflow.reading settings asked m) = w
    constructor
    · rw [SameConcurrency, ← Trigger.isCommand_iff hon, ← Trigger.isCommand_iff hon',
        ← Bool.eq_iff_iff]
      exact Concurrency.same_iff hevents _ _
    · intro hnone
      have hown : Concurrency.explicit? w.concurrency = none := by
        by_contra hsome
        exact hnone (Concurrency.explicit?_ne_none_iff.mp hsome)
      have hcancel : (ofWorkflow settings (w.withTrigger on)).concurrency.cancelInProgress
          = (!(w.withTrigger on).isCommand && Trigger.isPullRequest on) := by
        show (Concurrency.ofWorkflow on (w.withTrigger on).isCommand w.concurrency).cancelInProgress
          = _
        rw [Concurrency.ofWorkflow, hown]
        rfl
      have hcommand : (w.withTrigger on).isCommand = true ↔ ShowsCommand es on :=
        Trigger.isCommand_iff hon
      have hpull : Trigger.isPullRequest on = true
          ↔ ∃ e ∈ es, ("pull_request" : Text).isPrefixOf e = true := by
        rw [Trigger.isPullRequest, Trigger.events_of_spells hon, List.any_eq_true]
      rw [hcancel, Bool.and_eq_true, hpull, ← hcommand, Bool.not_eq_true', Bool.not_eq_true,
        and_comm]

/-- A command that is open to pull requests, too. -/
def commandEvents : List Text := ["slash_command", "pull_request"]

def listedCommand : Mapping := [(.text "on", .list (commandEvents.map .text))]

def mappedCommand : Mapping := [(.text "on", .map (commandEvents.map fun e => (.text e, .null)))]

/-- In a list the command is not seen: its runs share one group, and each cancels the one
    before. -/
theorem compile_listedCommand :
    commandEvents.Nodup
      ∧ ∃ p q, (compile {} none listedCommand).outcome = .ok p
        ∧ (compile {} none mappedCommand).outcome = .ok q
        ∧ p.concurrency.group ≠ q.concurrency.group
        ∧ p.concurrency.cancelInProgress = true ∧ q.concurrency.cancelInProgress = false := by
  have hlisted : failure? {} none listedCommand = none := by decide +kernel
  have hmapped : failure? {} none mappedCommand = none := by decide +kernel
  refine ⟨by decide, _, _, compile_eq_ok_iff.mpr ⟨hlisted, rfl⟩,
    compile_eq_ok_iff.mpr ⟨hmapped, rfl⟩, ?_, ?_, ?_⟩
  all_goals decide +kernel

theorem compile_respelled_command :
    Trigger.Spells commandEvents (.list (commandEvents.map .text))
      ∧ Trigger.Spells commandEvents (.map (commandEvents.map fun e => (.text e, .null)))
      ∧ ∃ p q, (compile {} none listedCommand).outcome = .ok p
        ∧ (compile {} none mappedCommand).outcome = .ok q
        ∧ Respelled commandEvents (.list (commandEvents.map .text))
            (.map (commandEvents.map fun e => (.text e, .null))) p q := by
  have hlisted : failure? {} none listedCommand = none := by decide +kernel
  have hmapped : failure? {} none mappedCommand = none := by decide +kernel
  have hlist := compile_eq_ok_iff.mpr ⟨hlisted, rfl⟩
  have hmapping := compile_eq_ok_iff.mpr ⟨hmapped, rfl⟩
  refine ⟨.list, .mapping, _, _, hlist, hmapping, ?_⟩
  exact (compile_respelled .list .mapping {} none []).2 _ _ hlist hmapping

end Policy

end WorkflowPolicy
