/-
  WorkflowPolicy/Proofs/SafeOutput/Signals.lean
  =============================================
  **Signals of the compiler and the author's environment.**  The compiler writes its
  signals into the environment that the author gave.  A signal that it sends has
  the value that it sends, whatever the author wrote; under the name of a signal
  that it does not send the author's own entry stands (`get?_env_signal`).

  So the author can suppress no signal and change none, but can forge one that is
  not sent: two plans of blocks that differ in the environment alone agree on a
  signal exactly if it is sent or the environments agree on its name
  (`compile_sealsSent`, `compile_forgedStaging`).
-/
import WorkflowPolicy.Proofs.SafeOutput.Payload

namespace WorkflowPolicy.SafeOutput.Plan

/-! ### Signals -/

inductive Signal where
  | staged
  | assignCopilot
  | handlers
  | projectHandlers
  | messages
deriving DecidableEq, Repr

namespace Signal

def all : List Signal := [.staged, .assignCopilot, .handlers, .projectHandlers, .messages]

theorem mem_all (s : Signal) : s ∈ all := by
  cases s <;> decide

def name : Signal → Text
  | .staged => stagedVariable
  | .assignCopilot => assignCopilotVariable
  | .handlers => handlerVariable
  | .projectHandlers => projectHandlerVariable
  | .messages => messagesVariable

theorem name_injective {s t : Signal} (h : s.name = t.name) : s = t := by
  have hnodup : (all.map name).Nodup := nodup_signalNames
  exact List.inj_on_of_nodup_map hnodup s.mem_all t.mem_all h

/-- A payload is sent when it holds something. -/
def payload? (payload : Fields Data) : Option Text :=
  if payload.isEmpty then none else some (payloadText payload)

/-- The value that is sent for a block, if the signal is sent at all. -/
def value? (trial : Bool) (b : Block) : Signal → Option Text
  | .staged => if b.actions.any (isStaged trial b) then some "true" else none
  | .assignCopilot => if b.actions.any assignsCopilot then some "true" else none
  | .handlers => payload? (entriesFor (!·.kind.isProject) b.actions)
  | .projectHandlers => payload? (entriesFor (·.kind.isProject) b.actions)
  | .messages =>
    let texts := (b.messages.map Messages.scriptFields).getD []
    if texts.isEmpty then none else some (Json.compactSorted (.ofTextFields texts))

def entry (trial : Bool) (b : Block) (s : Signal) : Fields Text :=
  ((s.value? trial b).map (s.name, ·)).toList

/-- What is sent does not depend on the author's environment. -/
theorem value?_withEnv (trial : Bool) (b : Block) (env : Fields Text) (s : Signal) :
    s.value? trial { b with env := env } = s.value? trial b := by
  cases s <;> rfl

end Signal

/-! ### The environment of a plan -/

/-- The compiler writes the entries of the signals that it sends, in their order. -/
theorem env_ofBlock (trial : Bool) (b : Block) :
    (ofBlock trial b).env
      = Assoc.insertAll id b.env (Signal.all.flatMap (Signal.entry trial b)) := by
  have hif : ∀ (c : Bool) (name value : Text),
      (if c then [(name, value)] else [])
        = ((if c then some value else none).map (name, ·)).toList := by
    intro c name value
    cases c <;> rfl
  have hunless : ∀ (c : Bool) (name value : Text),
      (if c then [] else [(name, value)])
        = ((if c then none else some value).map (name, ·)).toList := by
    intro c name value
    cases c <;> rfl
  simp only [ofBlock, signals, hif, hunless, Signal.all, List.flatMap_cons, List.flatMap_nil,
    List.append_nil, List.append_assoc]
  rfl

theorem mem_entries {trial : Bool} {b : Block} {e : Text × Text} :
    e ∈ Signal.all.flatMap (Signal.entry trial b)
      ↔ ∃ s : Signal, s.name = e.1 ∧ s.value? trial b = some e.2 := by
  rw [List.mem_flatMap]
  constructor
  · rintro ⟨s, -, he⟩
    rw [Signal.entry, Option.mem_toList, Option.map_eq_some_iff] at he
    obtain ⟨v, hv, rfl⟩ := he
    exact ⟨s, rfl, hv⟩
  · rintro ⟨s, hname, hv⟩
    refine ⟨s, s.mem_all, ?_⟩
    rw [Signal.entry, Option.mem_toList, hv, Option.map_some, hname]

/-- **One variable of a signal.**  A signal that is sent is found, and otherwise what the
    author wrote. -/
theorem get?_env_signal (trial : Bool) (b : Block) (s : Signal) :
    (ofBlock trial b).env.get? s.name = (s.value? trial b).or (b.env.get? s.name) := by
  have hfound : Assoc.get? id s.name (Signal.all.flatMap (Signal.entry trial b)).reverse
      = s.value? trial b := by
    cases hget : Assoc.get? id s.name (Signal.all.flatMap (Signal.entry trial b)).reverse with
    | none =>
      cases hvalue : s.value? trial b with
      | none => rfl
      | some v =>
        have hmem : (s.name, v) ∈ Signal.all.flatMap (Signal.entry trial b) :=
          mem_entries.mpr ⟨s, rfl, hvalue⟩
        have hnot := (Assoc.get?_eq_none_iff id s.name _).mp hget
        exact (hnot (s.name, v) (List.mem_reverse.mpr hmem) rfl).elim
    | some v =>
      -- an entry under this name is that of this signal, since names tell signals apart
      obtain ⟨name, hname, hmem⟩ := Assoc.mem_of_get? id hget
      obtain ⟨t, ht, hv⟩ := mem_entries.mp (List.mem_reverse.mp hmem)
      obtain rfl := Signal.name_injective (ht.trans hname)
      exact hv.symm
  rw [Fields.get?, env_ofBlock, Assoc.get?_insertAll, hfound]
  rfl

/-! ### Two plans -/

/-- How far the author's environment reaches into the signals of a plan. -/
structure SealsSent (trial : Bool) (b : Block) : Prop where
  /-- What is sent is what the variable holds, in whatever environment. -/
  sent : ∀ (env : Fields Text) (s : Signal) (v : Text), s.value? trial b = some v →
    (compile trial (some { b with env := env })).env.get? s.name = some v
  /-- Two environments give a signal alike exactly if it is sent or they agree on it. -/
  agree : ∀ (env : Fields Text) (s : Signal),
    (compile trial (some { b with env := env })).env.get? s.name
        = (compile trial (some b)).env.get? s.name
      ↔ s.value? trial b ≠ none ∨ env.get? s.name = b.env.get? s.name
  /-- Staging is shown when the plan is staged, and else only by the author. -/
  staging : (compile trial (some b)).env.get? stagedVariable ≠ none
    ↔ (compile trial (some b)).staged = true ∨ b.env.get? stagedVariable ≠ none
  /-- No plan is staged in trial mode. -/
  trialRun : trial = true → (compile trial (some b)).staged = false

/-- **Sent signals are sealed.**  The author's environment reaches the signals that are not
    sent, and no others. -/
theorem compile_sealsSent (trial : Bool) (b : Block) : SealsSent trial b := by
  have hget : ∀ (env : Fields Text) (s : Signal),
      (compile trial (some { b with env := env })).env.get? s.name
        = (s.value? trial b).or (env.get? s.name) := by
    intro env s
    rw [← s.value?_withEnv trial b env]
    exact get?_env_signal trial { b with env := env } s
  have hown : ∀ s : Signal, (compile trial (some b)).env.get? s.name
      = (s.value? trial b).or (b.env.get? s.name) :=
    get?_env_signal trial b
  refine ⟨?_, ?_, ?_, ?_⟩
  · intro env s v hv
    rw [hget, hv]
    rfl
  · intro env s
    rw [hget, hown]
    cases s.value? trial b with
    | none => simp
    | some v => simp
  · have hstaged := hown .staged
    have hplan : (compile trial (some b)).staged = b.actions.any (isStaged trial b) := rfl
    rw [Signal.name] at hstaged
    rw [hstaged, hplan, Signal.value?]
    cases b.actions.any (isStaged trial b) with
    | false => simp
    | true => simp
  · rintro rfl
    show b.actions.any (isStaged true b) = false
    simp [isStaged]

/-- The author forges a signal that is not sent: staging in trial mode, by a block without
    an action. -/
theorem compile_forgedStaging :
    (compile true (some {})).env.get? stagedVariable = none
      ∧ (compile true (some { env := [(stagedVariable, "true")] })).env.get? stagedVariable
          = some ("true" : Text)
      ∧ (compile true (some { env := [(stagedVariable, "true")] })).staged = false := by
  decide +kernel

end WorkflowPolicy.SafeOutput.Plan
