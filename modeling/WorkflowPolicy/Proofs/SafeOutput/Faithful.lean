/-
  WorkflowPolicy/Proofs/SafeOutput/Faithful.lean
  ==============================================
  **The payloads of a plan are faithful.**  Every action of a block has one entry in
  the payload of its handler, the payloads hold nothing else, and no name stands in
  both.  An entry reads back as its action, and the variable of a payload holds text
  that reads back as the payload, all but the pairs in its texts.  There is such a plan
  exactly if no action has an option that is a number with too many digits
  (`build_isFaithful`).
-/
import WorkflowPolicy.Proofs.SafeOutput.Writable

namespace WorkflowPolicy.SafeOutput.Plan

/-- What is read of a payload, up to the order of keys. -/
structure IsRead (payload d : Data) : Prop where
  /-- Two halves of a pair side by side come back as one character. -/
  joined : (Json.joined payload).agrees d = true
  /-- Without them the payload itself comes back, and only then. -/
  exactly : payload.agrees d = true ↔ ∀ s, Json.HasText s payload → ¬ Json.HasPair s.toList

/-- What a plan owes to the actions of a block. -/
structure IsFaithful (p : Plan) (b : Block) : Prop where
  /-- The payload of an action's class holds the entry of the action under its name. -/
  entry : ∀ a ∈ b.actions,
    (p.payload a.kind.isProject).get? a.kind.handlerName = some a.handlerConfig
  /-- Every entry is that of an action whose class has the payload. -/
  origin : ∀ project, ∀ e ∈ p.payload project,
    ∃ a ∈ b.actions, a.kind.isProject = project ∧ e = (a.kind.handlerName, a.handlerConfig)
  /-- No name occurs twice, be it in one payload or in both. -/
  names : ((p.payload false ++ p.payload true).map (·.1)).Nodup
  /-- Both payloads keep the order of the actions. -/
  order : ∀ project,
    ((p.payload project).map (·.1)).Sublist (b.actions.map (·.kind.handlerName))
  /-- An entry reads back as its action, but for a limit that is not positive. -/
  reads_back : ∀ a ∈ b.actions,
    Action.extract? a.kind a.handlerConfig
      = some { a with max := a.kind.limitForHandler a.max }
  /-- A payload that holds something is in the environment, as text that can be read. -/
  env : ∀ project, p.payload project ≠ [] → ∃ text d,
    p.env.get? (payloadVariable project) = some (.ofString text) ∧ Json.read text = .ok d
      ∧ IsRead (.ofFields (p.payload project)) d

theorem isFaithful_compile (trial : Bool) {b : Block} (h : ∀ a ∈ b.actions, a.IsAccepted)
    (hshort : b.holdsLongNumber = false) : (compile trial (some b)).IsFaithful b where
  entry := by
    intro a ha
    have hmem : (a.kind.handlerName, a.handlerConfig)
        ∈ (ofBlock trial b).payload a.kind.isProject := by
      rw [payload_ofBlock]
      exact mem_entriesFor.mpr ⟨a, ha, beq_self_eq_true _, rfl⟩
    have hdistinct : Assoc.Distinct id ((ofBlock trial b).payload a.kind.isProject) := by
      rw [payload_ofBlock]
      exact distinct_entriesFor b.distinct _
    exact Assoc.get?_of_mem id hdistinct hmem
  origin := by
    intro project e he
    have hmem : e ∈ (ofBlock trial b).payload project := he
    rw [payload_ofBlock] at hmem
    obtain ⟨a, ha, hproject, rfl⟩ := mem_entriesFor.mp hmem
    exact ⟨a, ha, beq_iff_eq.mp hproject, rfl⟩
  names := by
    have hpayloads : ∀ project, (compile trial (some b)).payload project
        = entriesFor (fun a => a.kind.isProject == project) b.actions :=
      payload_ofBlock trial b
    rw [hpayloads, hpayloads, List.map_append]
    refine List.Nodup.append (distinct_entriesFor b.distinct _)
      (distinct_entriesFor b.distinct _) (disjoint_entriesFor b.distinct ?_)
    intro a hfalse htrue
    rw [beq_iff_eq.mp hfalse] at htrue
    cases htrue
  order := by
    intro project
    have hpayload : (compile trial (some b)).payload project
        = entriesFor (fun a => a.kind.isProject == project) b.actions :=
      payload_ofBlock trial b project
    rw [hpayload]
    exact entriesFor_names_sublist _ _
  reads_back := by
    intro a ha
    exact Action.extract?_handlerConfig (h a ha)
  env := by
    intro project hne
    have hheld : Json.Held (.ofFields ((ofBlock trial b).payload project)) := by
      rw [payload_ofBlock]
      exact held_entriesFor b.distinct h _
    have hwritable : Json.Writable (.ofFields ((ofBlock trial b).payload project)) := by
      rw [payload_ofBlock, writable_entriesFor h]
      intro a ha _
      exact Bool.eq_false_iff.mpr (List.any_eq_false.mp hshort a ha)
    exact ⟨_, _, env_payloadVariable trial b hne, Json.read_compactSorted hheld hwritable,
      Json.joined_agrees hheld, Json.agrees_joined_iff hheld⟩

/-- **Plans are faithful.**  In trial mode or not, the plan of a block of accepted
    actions loses and duplicates none of them, and distorts only the pairs in their texts.
    There is none exactly if an option is a number with too many digits. -/
theorem build_isFaithful (trial : Bool) (b : Block) (h : ∀ a ∈ b.actions, a.IsAccepted) :
    if b.holdsLongNumber then (build trial (some b)).outcome = .error .overlong
    else ∃ p, (build trial (some b)).outcome = .ok p ∧ p.IsFaithful b := by
  rw [build_outcome trial h]
  cases hlong : b.holdsLongNumber with
  | true => rfl
  | false => exact ⟨_, rfl, isFaithful_compile trial h hlong⟩

/-- A block with both payloads, with quotes and a character beyond the basic plane, with
    a limit that is left out, and with a forged variable. -/
def forgedBlock : Block :=
  Block.ofMapping
    [(.text "create-project", .map [(.text "title-prefix", .text "b")]),
     (.text "create-issue",
      .map [(.text "max", .int 0), (.text "title-prefix", .text "\"\\\x01 é 😀")]),
     (.text "env", .map [(.text handlerVariable, .text "forged")])]

theorem build_isFaithful_forged :
    forgedBlock.env.get? handlerVariable = some (.ofString "forged")
      ∧ forgedBlock.actions.map (·.setting? "title_prefix")
          = [some (.text "\"\\\x01 é 😀"), some (.text "b")]
      ∧ forgedBlock.actions.map (·.max) = [some (.literal 0), some (.literal 1)]
      ∧ (∀ project, (compile false (some forgedBlock)).payload project ≠ [])
      ∧ ∃ p, (build false (some forgedBlock)).outcome = .ok p ∧ p.IsFaithful forgedBlock := by
  have hshort : forgedBlock.holdsLongNumber = false := by decide +kernel
  have hfaithful := build_isFaithful false forgedBlock Action.isAccepted_of_mem_ofMapping
  rw [hshort] at hfaithful
  refine ⟨?_, ?_, ?_, ?_, hfaithful⟩
  · decide +kernel
  · decide +kernel
  · decide +kernel
  · decide +kernel

/-- An issue that expires after a number of days with too many digits. -/
def everlastingBlock : Block :=
  Block.ofMapping [(.text "create-issue", .map [(.text "expires", .int Decimal.tooLong)])]

/-- The two halves of a pair. -/
def halves : Text := ⟨[.surrogate 0x3D, .surrogate 0x680]⟩

def halvesBlock : Block :=
  Block.ofMapping [(.text "create-issue", .map [(.text "title-prefix", .text halves)])]

def halvesPlan : Plan := compile false (some halvesBlock)

/-- The one block has no plan, and of the payload of the other something else is read. -/
theorem build_isFaithful_not :
    everlastingBlock.actions.map (·.kind) = [.createIssue]
      ∧ (build false (some everlastingBlock)).outcome = .error .overlong
      ∧ (build false (some halvesBlock)).outcome = .ok halvesPlan
      ∧ ∃ text d, halvesPlan.env.get? handlerVariable = some (.ofString text)
        ∧ Json.read text = .ok d ∧ (Data.ofFields halvesPlan.handlerConfig).agrees d = false := by
  have hshort : halvesBlock.holdsLongNumber = false := by decide +kernel
  have haccepted : ∀ a ∈ halvesBlock.actions, a.IsAccepted := Action.isAccepted_of_mem_ofMapping
  have hbuild := build_outcome false haccepted
  rw [hshort] at hbuild
  have hpayload : halvesPlan.handlerConfig = ([("create_issue",
      .map [(.text "max", .int 1), (.text "title-prefix", .text halves)])] : Fields Data) := by
    decide +kernel
  have hsent : halvesPlan.payload false ≠ [] := by
    decide +kernel
  obtain ⟨text, d, hget, hread, his⟩ :=
    (isFaithful_compile false haccepted hshort).env false hsent
  refine ⟨by decide +kernel, by decide +kernel, hbuild, text, d, hget, hread, ?_⟩
  have hpair : Json.HasPair halves.toList :=
    ⟨.surrogate 0x3D, .surrogate 0x680, List.infix_rfl, by decide⟩
  have htext : Json.HasText halves (.ofFields halvesPlan.handlerConfig) := by
    rw [hpayload]
    exact .entry List.mem_cons_self (.entry (List.mem_cons_of_mem _ List.mem_cons_self) .here)
  exact Bool.eq_false_iff.mpr fun hagrees => his.exactly.mp hagrees halves htext hpair

end WorkflowPolicy.SafeOutput.Plan
