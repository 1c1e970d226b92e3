/-
  WorkflowPolicy/SafeOutput/Block.lean
  ====================================
  **The block of safe outputs.**  A workflow configures at most one action of each
  kind, and a few settings for all of them.  Reading the block visits the kinds in
  canonical order, so the order in which an author wrote them has no influence.

  A kind that targets the wildcard repository is not dropped silently: it is
  listed among the rejected ones.
-/
import WorkflowPolicy.SafeOutput.Action
import WorkflowPolicy.SafeOutput.Messages

namespace WorkflowPolicy.SafeOutput

/-- The configured actions, one of a kind, and the settings they share. -/
structure Block where
  actions : List Action := []
  staged : Bool := false
  env : Fields Text := []
  token : Option Text := none
  messages : Option Messages := none
  distinct : (actions.map Action.kind).Nodup := by simp
deriving DecidableEq

namespace Block

def get? (b : Block) (kind : Text) : Option Action :=
  b.actions.find? fun a => a.kind.name == kind

def has (b : Block) (kind : Text) : Bool := (b.get? kind).isSome

def isEmpty (b : Block) : Bool := b.actions.isEmpty

/-- A block of actions that are stored under names: the names have to be those of
    their kinds. -/
def ofNamed (entries : List (Text × Action)) : Verdict Block :=
  let named := Fields.ofList entries
  if h : (named.map (·.2.kind)).Nodup ∧ named.all (fun e => e.1 == e.2.kind.name) = true then
    .accepted
      { actions := named.map (·.2)
        distinct := by simpa [Function.comp_def] using h.1 }
  else .refuse .ruleBroken

/-! ### Reading -/

def actionOf? (m : Mapping) (k : Kind) : Option Action :=
  (m.get? k.name).bind (Action.extract? k)

theorem kind_of_extract? {k : Kind} {d : Data} {a : Action} (h : Action.extract? k d = some a) :
    a.kind = k := by
  simp only [Action.extract?] at h
  obtain ⟨m, _, h⟩ := Option.bind_eq_some_iff.mp h
  split at h
  · simp at h
  · simp only [Action.ofOptions] at h
    split at h
    · simp [Verdict.refuse, Verdict.toOption] at h
    · simp only [Verdict.toOption, Option.some.injEq] at h
      subst h
      rfl

theorem kind_of_actionOf? {m : Mapping} {k : Kind} {a : Action} (h : actionOf? m k = some a) :
    a.kind = k := by
  obtain ⟨d, _, h⟩ := Option.bind_eq_some_iff.mp h
  exact kind_of_extract? h

theorem nodup_filterMap {m : Mapping} {ks : List Kind} (h : ks.Nodup) :
    ((ks.filterMap (actionOf? m)).map Action.kind).Nodup := by
  induction ks with
  | nil => simp
  | cons k ks ih =>
    obtain ⟨hk, hks⟩ := List.nodup_cons.mp h
    rw [List.filterMap_cons]
    cases ha : actionOf? m k with
    | none => simpa [ha] using ih hks
    | some a =>
      simp only [List.map_cons, List.nodup_cons]
      refine ⟨?_, ih hks⟩
      rw [kind_of_actionOf? ha]
      intro hmem
      obtain ⟨b, hb, hbk⟩ := List.mem_map.mp hmem
      obtain ⟨l, hl, hlb⟩ := List.mem_filterMap.mp hb
      rw [kind_of_actionOf? hlb] at hbk
      exact hk (hbk ▸ hl)

theorem kinds_nodup : Kind.all.Nodup := by decide +kernel

def ofMapping (m : Mapping) : Block :=
  { actions := Kind.all.filterMap (actionOf? m)
    staged := ((m.value "staged").flag?).getD false
    env := ((m.value "env").textMap?).getD []
    token := (m.value "github-token").text?
    messages := Messages.ofData? (m.value "messages")
    distinct := nodup_filterMap kinds_nodup }

def rejectionReason : Text := "target-repo cannot be the wildcard '*'"

/-- Whether a kind is configured with the wildcard as its target. -/
def isRejected (m : Mapping) (k : Kind) : Bool := (m.get? k.name).any Action.namesWildcard

def rejectedKinds (m : Mapping) : List Kind := Kind.all.filter (isRejected m)

/-- What reading a frontmatter yields: the block, if there is one, and the kinds
    that were rejected. -/
structure Extraction where
  block : Option Block := none
  rejected : List Kind := []

def extract (m : Mapping) : Extraction :=
  match m.value "safe-outputs" with
  | .map es => { block := some (ofMapping es), rejected := rejectedKinds es }
  | _ => {}

def extractWarnings (m : Mapping) : List Text :=
  match m.value "safe-outputs" with
  | .map es =>
    Kind.all.flatMap fun k => ((Mapping.get? es k.name).map (Action.extractWarnings k)).getD []
  | _ => []

/-- Whether a key of the block, or of its environment, is too long to be shown.  Unknown
    keys are shown in a record of the log, and those of the environment become texts. -/
def hasLongKey (m : Mapping) : Bool :=
  m.any (!·.1.isShowable) || (m.value "env").hasLongKey

def isOverlong (m : Mapping) : Bool :=
  match m.value "safe-outputs" with
  | .map es => hasLongKey es
  | _ => false

theorem isOverlong_of_value {m es : Mapping} (h : m.value "safe-outputs" = .map es) :
    isOverlong m = hasLongKey es := by
  rw [isOverlong, h]

/-- The safe outputs of a frontmatter, as the compiler reads them. -/
def read (m : Mapping) : Check Extraction := do
  Check.withWarnings () (extractWarnings m)
  Check.unlessOverlong (isOverlong m)
  return extract m

/-! ### Rendering -/

def entry (present : Bool) (key : Text) (value : Data) : Fields Data :=
  if present then [(key, value)] else []

def toData (b : Block) : Data :=
  .ofFields
    (b.actions.map (fun a => (a.kind.name, a.toData))
      ++ entry b.staged "staged" (.bool true)
      ++ entry (b.env ≠ []) "env" (.ofTextFields b.env)
      ++ (match b.token with
        | some t => entry (t ≠ "") "github-token" t
        | none => [])
      ++ match b.messages with
        | some m => [("messages", .ofTextFields m.toFields)]
        | none => [])

end Block

end WorkflowPolicy.SafeOutput
