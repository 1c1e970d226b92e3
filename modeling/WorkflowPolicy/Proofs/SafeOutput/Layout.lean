/-
  WorkflowPolicy/Proofs/SafeOutput/Layout.lean
  ============================================
  **The environment of a plan, entry by entry.**  Each signal is sent on a condition on
  the actions and settings of the block (`Signal.Holds`), which is stated here without the
  functions that build the plan.  If the author uses none of their names, the environment
  is the author's own followed by the signals that are sent, in the order of `Signal.all`
  (`build_isLaidOut`).
-/
import WorkflowPolicy.Proofs.SafeOutput.Signals
import WorkflowPolicy.Proofs.SafeOutput.Writable

namespace WorkflowPolicy.SafeOutput

/-- The action names no repository to write to in place of its own. -/
def Action.StaysHere (a : Action) : Prop := ∀ repo ∈ a.targetRepo?, repo = ""

instance (a : Action) : Decidable a.StaysHere := inferInstanceAs (Decidable (∀ _ ∈ _, _))

namespace Plan

/-! ### When a signal is sent -/

def Signal.Holds (trial : Bool) (b : Block) : Signal → Prop
  | .staged => trial = false ∧ ∃ a ∈ b.actions, a.StaysHere ∧ (b.staged = true ∨ a.staged = true)
  | .assignCopilot => ∃ a ∈ b.actions, a.kind = .createIssue
      ∧ ∃ names ∈ (a.setting? "assignees").bind Setting.texts?, copilot ∈ names
  | .handlers => ∃ a ∈ b.actions, a.kind.isProject = false
  | .projectHandlers => ∃ a ∈ b.actions, a.kind.isProject = true
  | .messages => ∃ texts ∈ b.messages, ∃ row ∈ texts.rows, row.2 ≠ none

instance (trial : Bool) (b : Block) (s : Signal) : Decidable (s.Holds trial b) :=
  match s with
  | .staged => inferInstanceAs (Decidable (_ ∧ _))
  | .assignCopilot => inferInstanceAs (Decidable (∃ _ ∈ _, _))
  | .handlers => inferInstanceAs (Decidable (∃ _ ∈ _, _))
  | .projectHandlers => inferInstanceAs (Decidable (∃ _ ∈ _, _))
  | .messages => inferInstanceAs (Decidable (∃ _ ∈ _, _))

theorem isEmpty_targetRepo {a : Action} :
    (a.targetRepo?.getD "").isEmpty = true ↔ a.StaysHere := by
  rw [Action.StaysHere]
  cases a.targetRepo? with
  | none => simp
  | some repo => simp

theorem isStaged_iff {trial : Bool} {b : Block} {a : Action} :
    isStaged trial b a = true
      ↔ trial = false ∧ a.StaysHere ∧ (b.staged = true ∨ a.staged = true) := by
  rw [isStaged, Bool.and_eq_true, Bool.and_eq_true, isEmpty_targetRepo, Bool.or_eq_true,
    Bool.not_eq_true', and_assoc]

theorem any_isStaged {trial : Bool} {b : Block} :
    b.actions.any (isStaged trial b) = true ↔ Signal.staged.Holds trial b := by
  rw [List.any_eq_true]
  constructor
  · rintro ⟨a, ha, hstaged⟩
    obtain ⟨htrial, hcondition⟩ := isStaged_iff.mp hstaged
    exact ⟨htrial, a, ha, hcondition⟩
  · rintro ⟨htrial, a, ha, hcondition⟩
    exact ⟨a, ha, isStaged_iff.mpr ⟨htrial, hcondition⟩⟩

theorem namesCopilot_getD {names : Option (List Text)} :
    namesCopilot (names.getD []) = true ↔ ∃ l ∈ names, copilot ∈ l := by
  cases names with
  | none => simp [namesCopilot]
  | some l => simp [namesCopilot]

theorem any_assignsCopilot (trial : Bool) {b : Block} :
    b.actions.any assignsCopilot = true ↔ Signal.assignCopilot.Holds trial b := by
  rw [List.any_eq_true]
  refine exists_congr ?_
  intro a
  rw [assignsCopilot, Bool.and_eq_true, beq_iff_eq, namesCopilot_getD]

theorem entriesFor_ne_nil {p : Action → Bool} {actions : List Action} :
    entriesFor p actions ≠ [] ↔ ∃ a ∈ actions, p a = true := by
  rw [entriesFor, ne_eq, List.map_eq_nil_iff, List.filter_eq_nil_iff]
  simp

theorem scriptFields_ne_nil {texts : Messages} :
    texts.scriptFields ≠ [] ↔ ∃ row ∈ texts.rows, row.2 ≠ none := by
  rw [Messages.scriptFields, Messages.written, ne_eq, List.filterMap_eq_nil_iff]
  simp

/-! ### What is sent -/

/-- The value of a signal, once it is sent. -/
def Signal.text (p : Plan) (b : Block) : Signal → Text
  | .staged | .assignCopilot => "true"
  | .handlers => payloadText p.handlerConfig
  | .projectHandlers => payloadText p.projectHandlerConfig
  | .messages =>
    Json.compactSorted (.ofTextFields ((b.messages.map Messages.scriptFields).getD []))

theorem ite_isEmpty {α : Type} {l : List α} {P : Prop} [Decidable P] (h : l ≠ [] ↔ P)
    (v : Text) : (if l.isEmpty then none else some v) = if P then some v else none := by
  cases l with
  | nil =>
    have hnot : ¬ P := fun hP => h.mpr hP rfl
    rw [if_neg hnot]
    rfl
  | cons x l =>
    have hP : P := h.mp (List.cons_ne_nil x l)
    rw [if_pos hP]
    rfl

theorem Signal.value?_eq (trial : Bool) (b : Block) (s : Signal) :
    s.value? trial b
      = if s.Holds trial b then some (s.text (ofBlock trial b) b) else none := by
  cases s with
  | staged => exact if_congr any_isStaged rfl rfl
  | assignCopilot => exact if_congr (any_assignsCopilot trial) rfl rfl
  | handlers =>
    apply ite_isEmpty
    rw [entriesFor_ne_nil]
    simp [Holds]
  | projectHandlers =>
    apply ite_isEmpty
    rw [entriesFor_ne_nil]
    rfl
  | messages =>
    apply ite_isEmpty
    rw [Holds]
    cases b.messages with
    | none => simp
    | some texts => simpa using scriptFields_ne_nil

/-- The signals of a list that are sent, in its order. -/
theorem Signal.flatMap_entry (trial : Bool) (b : Block) (l : List Signal) :
    l.flatMap (entry trial b)
      = (l.filter fun s => s.Holds trial b).map fun s => (s.name, s.text (ofBlock trial b) b) := by
  induction l with
  | nil => rfl
  | cons s l ih =>
    rw [List.flatMap_cons, ih, entry, value?_eq, List.filter_cons]
    by_cases h : s.Holds trial b
    · rw [if_pos h, if_pos (decide_eq_true h)]
      rfl
    · rw [if_neg h, if_neg (by simpa using h)]
      rfl

/-! ### The layout -/

/-- A plan whose environment holds the author's entries and then the signals whose
    conditions hold, and whose flags are the conditions of theirs. -/
structure IsLaidOut (p : Plan) (trial : Bool) (b : Block) : Prop where
  env : p.env = b.env
    ++ (Signal.all.filter fun s => s.Holds trial b).map fun s => (s.name, s.text p b)
  staged : p.staged = true ↔ Signal.staged.Holds trial b
  assignCopilot : p.assignCopilot = true ↔ Signal.assignCopilot.Holds trial b

theorem isLaidOut_compile (trial : Bool) {b : Block}
    (h : ∀ s : Signal, b.env.get? s.name = none) :
    (compile trial (some b)).IsLaidOut trial b := by
  have hentries := Signal.flatMap_entry trial b Signal.all
  have hdistinct : Assoc.Distinct id (Signal.all.flatMap (Signal.entry trial b)) := by
    rw [hentries, Assoc.Distinct, List.map_map]
    exact nodup_signalNames.sublist (List.filter_sublist.map Signal.name)
  have hfresh : ∀ e ∈ Signal.all.flatMap (Signal.entry trial b),
      Assoc.get? id e.1 b.env = none := by
    intro e he
    obtain ⟨s, hname, -⟩ := mem_entries.mp he
    rw [← hname]
    exact h s
  constructor
  · show (ofBlock trial b).env = _
    rw [env_ofBlock, Assoc.insertAll_of_fresh id hdistinct hfresh, hentries]
    rfl
  · exact any_isStaged
  · exact any_assignsCopilot trial

/-- **The layout of the environment**, for an author who uses no name of a signal.  There
    is a plan exactly if no option of an action is a number with too many digits. -/
theorem build_isLaidOut (trial : Bool) (b : Block) (haccepted : ∀ a ∈ b.actions, a.IsAccepted)
    (h : ∀ s : Signal, b.env.get? s.name = none) :
    if b.holdsLongNumber then (build trial (some b)).outcome = .error .overlong
    else ∃ p, (build trial (some b)).outcome = .ok p ∧ p.IsLaidOut trial b := by
  rw [build_outcome trial haccepted]
  cases b.holdsLongNumber with
  | true => rfl
  | false => exact ⟨_, rfl, isLaidOut_compile trial h⟩

/-- Issues for the coding agent in another repository, a project beside them, and a
    message: every signal is sent, and in trial mode every one but staging. -/
def busyBlock : Block :=
  Block.ofMapping
    [(.text "env", .map [(.text "B", .text "x"), (.text "A", .text "y"), (.text "C", .int 1)]),
     (.text "create-project", .map [(.text "staged", .bool true)]),
     (.text "messages", .map [(.text "run_failure", .text "")]),
     (.text "create-issue",
      .map [(.text "assignees", .text "copilot"), (.text "target-repo", .text "o/r"),
            (.text "staged", .bool true)])]

theorem build_isLaidOut_busy :
    (∀ s : Signal, busyBlock.env.get? s.name = none)
      ∧ busyBlock.env = ([("B", "x"), ("A", "y")] : Fields Text)
      ∧ (Signal.all.filter fun s => s.Holds false busyBlock) = Signal.all
      ∧ (Signal.all.filter fun s => s.Holds true busyBlock)
          = [.assignCopilot, .handlers, .projectHandlers, .messages]
      ∧ ∀ trial, ∃ p, (build trial (some busyBlock)).outcome = .ok p
        ∧ p.IsLaidOut trial busyBlock := by
  have henv : busyBlock.env = ([("B", "x"), ("A", "y")] : Fields Text) := by decide +kernel
  have hfree : ∀ s : Signal, busyBlock.env.get? s.name = none := by
    intro s
    rw [henv]
    cases s <;> decide +kernel
  refine ⟨hfree, henv, ?_, ?_, ?_⟩
  · decide +kernel
  · decide +kernel
  · intro trial
    have hshort : busyBlock.holdsLongNumber = false := by decide +kernel
    have hlaidOut := build_isLaidOut trial busyBlock Action.isAccepted_of_mem_ofMapping hfree
    rwa [hshort] at hlaidOut

/-- Issues that expire after a number of days with too many digits. -/
def endlessBlock : Block :=
  Block.ofMapping
    [(.text "env", .map [(.text "A", .text "y")]),
     (.text "create-issue", .map [(.text "expires", .int (-Decimal.tooLong))])]

theorem build_isLaidOut_not :
    (∀ s : Signal, endlessBlock.env.get? s.name = none)
      ∧ Signal.handlers.Holds false endlessBlock
      ∧ ¬ ∃ p, (build false (some endlessBlock)).outcome = .ok p := by
  have hfails : (build false (some endlessBlock)).outcome = .error .overlong := by
    decide +kernel
  have henv : endlessBlock.env = ([("A", "y")] : Fields Text) := by decide +kernel
  refine ⟨?_, ?_, ?_⟩
  · intro s
    rw [henv]
    cases s <;> decide +kernel
  · decide +kernel
  · rintro ⟨p, hp⟩
    rw [hfails] at hp
    cases hp

end Plan

end WorkflowPolicy.SafeOutput
