/-
  WorkflowPolicy/Proofs/SafeOutput/Payload.lean
  =============================================
  **The payloads of a plan.**  Handler names tell kinds apart, so every action of a
  block has one entry in the payload of its handler.  An entry is data that JSON
  holds exactly.  The five variables of a plan have five names, so what the author
  wrote under them is replaced (`env_payloadVariable`).
-/
import WorkflowPolicy.Proofs.Json.Sorted
import WorkflowPolicy.Proofs.SafeOutput.ReadBack
import WorkflowPolicy.SafeOutput.Plan

namespace WorkflowPolicy

theorem Json.held_ofFields {m : Fields Data} (hdistinct : Assoc.Distinct id m)
    (hkeys : ∀ e ∈ m, ¬ HasPair e.1.toList) (hvalues : ∀ e ∈ m, Held e.2) :
    Held (.ofFields m) := by
  refine .map ?_ ?_ (Fields.distinct_toMapping hdistinct)
  · intro f hf
    obtain ⟨e, he, rfl⟩ := List.mem_map.mp hf
    exact ⟨e.1, rfl, hkeys e he⟩
  · intro f hf
    obtain ⟨e, he, rfl⟩ := List.mem_map.mp hf
    exact hvalues e he

namespace SafeOutput

/-! ### Handler names -/

theorem Kind.nodup_handlerNames : (all.map handlerName).Nodup := by
  decide +kernel

theorem Kind.handlerName_injective {k l : Kind} (h : k.handlerName = l.handlerName) : k = l :=
  List.inj_on_of_nodup_map nodup_handlerNames k.mem_all l.mem_all h

theorem Kind.not_hasPair_handlerName (k : Kind) : ¬ Json.HasPair k.handlerName.toList := by
  rw [← Json.joinPairs_eq_self_iff]
  cases k <;> decide +kernel

theorem Kind.not_hasPair_key (k : Kind) :
    ∀ key ∈ Text.ofString "max" :: "staged" :: k.options.map OptionSpec.key,
      ¬ Json.HasPair key.toList := by
  simp only [← Json.joinPairs_eq_self_iff]
  cases k <;> decide +kernel

/-! ### Entries that JSON holds -/

theorem Setting.held_toData (s : Setting) : Json.Held s.toData := by
  cases s with
  | text s => exact .text s
  | texts l =>
    refine .list ?_
    intro x hx
    obtain ⟨s, -, rfl⟩ := List.mem_map.mp hx
    exact .text s
  | flag b => exact .bool b
  | number n => exact .int n
  | template t =>
    cases t with
    | literal b => exact .bool b
    | expression s => exact .text s

theorem held_limitData? {t : Templatable Int} {d : Data} (h : t.limitData? = some d) :
    Json.Held d := by
  cases t with
  | literal n =>
    rw [Templatable.limitData?] at h
    split at h
    · cases h
      exact .int n
    · cases h
  | expression s =>
    cases h
    exact .text s

namespace Action

theorem settingEntries_keys_sublist {f : OptionSpec → Option Setting} (os : List OptionSpec) :
    ((os.flatMap fun o => settingEntry o (f o)).map (·.1)).Sublist (os.map OptionSpec.key) := by
  induction os with
  | nil => exact .slnil
  | cons o os ih =>
    rw [List.flatMap_cons, List.map_append, List.map_cons]
    cases f o with
    | none => exact ih.cons _
    | some s => exact ih.cons_cons _

/-- The written form has at most the limit, one entry per option, and the staging flag. -/
theorem written_keys_sublist {a : Action} {f : OptionSpec → Option Setting}
    (h : a.SettingsFrom f) (limit : Option Data) :
    ((a.written limit).map (·.1)).Sublist
      ([Text.ofString "max"] ++ a.kind.options.map OptionSpec.key ++ [Text.ofString "staged"]) := by
  have hlimit : ((limitEntry limit).map (·.1)).Sublist [Text.ofString "max"] := by
    cases limit with
    | none => exact List.nil_sublist _
    | some d => exact List.Sublist.refl _
  have hstaged : (a.stagedEntry.map (·.1)).Sublist [Text.ofString "staged"] := by
    rw [stagedEntry]
    split
    · exact List.Sublist.refl _
    · exact List.nil_sublist _
  rw [written, List.map_append, List.map_append, h.settingEntries_eq]
  exact (hlimit.append (settingEntries_keys_sublist _)).append hstaged

theorem written_keys_perm (a : Action) :
    ([Text.ofString "max"] ++ a.kind.options.map OptionSpec.key ++ [Text.ofString "staged"]).Perm
      (Text.ofString "max" :: "staged" :: a.kind.options.map OptionSpec.key) := by
  rw [List.append_assoc]
  exact List.Perm.cons _ (List.perm_append_singleton _ _)

theorem distinct_written {a : Action} {f : OptionSpec → Option Setting}
    (h : a.SettingsFrom f) (limit : Option Data) : Assoc.Distinct id (a.written limit) := by
  have hnodup := a.written_keys_perm.nodup_iff.mpr a.kind.options_distinct.2
  exact hnodup.sublist (written_keys_sublist h limit)

theorem not_hasPair_written {a : Action} {f : OptionSpec → Option Setting}
    (h : a.SettingsFrom f) (limit : Option Data) :
    ∀ e ∈ a.written limit, ¬ Json.HasPair e.1.toList := by
  intro e he
  have hmem := (written_keys_sublist h limit).subset (List.mem_map_of_mem he)
  exact a.kind.not_hasPair_key e.1 (a.written_keys_perm.subset hmem)

theorem held_written {a : Action} {f : OptionSpec → Option Setting} (h : a.SettingsFrom f)
    {limit : Option Data} (hlimit : ∀ d ∈ limit, Json.Held d) :
    Json.Held (.ofFields (a.written limit)) := by
  refine Json.held_ofFields (distinct_written h limit) (not_hasPair_written h limit) ?_
  intro e he
  rw [written, List.mem_append, List.mem_append] at he
  -- the limit, then the options that are set, then the staging flag
  rcases he with (he | he) | he
  · cases limit with
    | none => cases he
    | some d =>
      obtain rfl := List.mem_singleton.mp he
      exact hlimit d rfl
  · rw [h.settingEntries_eq] at he
    obtain ⟨o, -, he⟩ := List.mem_flatMap.mp he
    cases hf : f o with
    | none =>
      rw [hf] at he
      cases he
    | some s =>
      rw [hf] at he
      obtain rfl := List.mem_singleton.mp he
      exact s.held_toData
  · rw [stagedEntry] at he
    split at he
    · obtain rfl := List.mem_singleton.mp he
      exact .bool true
    · cases he

theorem held_handlerConfig {a : Action} (h : a.IsAccepted) : Json.Held a.handlerConfig := by
  obtain ⟨f, hf⟩ := h.normal
  rw [handlerConfig_eq]
  refine held_written hf.settings ?_
  intro d hd
  obtain ⟨t, -, ht⟩ := Option.bind_eq_some_iff.mp hd
  exact held_limitData? ht

end Action

/-! ### Payloads -/

namespace Plan

/-- The payload of project outputs or of all others. -/
def payload (p : Plan) (project : Bool) : Fields Data :=
  if project then p.projectHandlerConfig else p.handlerConfig

def payloadVariable (project : Bool) : Text :=
  if project then projectHandlerVariable else handlerVariable

theorem payload_ofBlock (trial : Bool) (b : Block) (project : Bool) :
    (ofBlock trial b).payload project
      = entriesFor (fun a => a.kind.isProject == project) b.actions := by
  cases project with
  | true =>
    have hfilter : (fun a : Action => a.kind.isProject) = fun a => a.kind.isProject == true := by
      funext a
      cases a.kind.isProject <;> rfl
    exact congrArg (entriesFor · b.actions) hfilter
  | false =>
    have hfilter : (fun a : Action => !a.kind.isProject) = fun a => a.kind.isProject == false := by
      funext a
      cases a.kind.isProject <;> rfl
    exact congrArg (entriesFor · b.actions) hfilter

section Entries

variable {actions : List Action}

theorem mem_entriesFor {p : Action → Bool} {e : Text × Data} :
    e ∈ entriesFor p actions ↔
      ∃ a ∈ actions, p a = true ∧ e = (a.kind.handlerName, a.handlerConfig) := by
  rw [entriesFor, List.mem_map]
  constructor
  · rintro ⟨a, ha, rfl⟩
    exact ⟨a, (List.mem_filter.mp ha).1, (List.mem_filter.mp ha).2, rfl⟩
  · rintro ⟨a, ha, hp, rfl⟩
    exact ⟨a, List.mem_filter.mpr ⟨ha, hp⟩, rfl⟩

/-- The names of a payload are those of the actions, in their order. -/
theorem entriesFor_names_sublist (p : Action → Bool) (actions : List Action) :
    ((entriesFor p actions).map (·.1)).Sublist (actions.map (·.kind.handlerName)) := by
  rw [entriesFor, List.map_map]
  exact List.filter_sublist.map _

theorem nodup_names (h : (actions.map Action.kind).Nodup) :
    (actions.map (·.kind.handlerName)).Nodup := by
  have hmap : actions.map (·.kind.handlerName)
      = (actions.map Action.kind).map Kind.handlerName := by
    rw [List.map_map]
    rfl
  rw [hmap]
  exact h.map fun _ _ => Kind.handlerName_injective

theorem distinct_entriesFor (h : (actions.map Action.kind).Nodup) (p : Action → Bool) :
    Assoc.Distinct id (entriesFor p actions) :=
  (nodup_names h).sublist (entriesFor_names_sublist p actions)

/-- Two conditions that exclude each other give payloads without a common name. -/
theorem disjoint_entriesFor (h : (actions.map Action.kind).Nodup) {p q : Action → Bool}
    (hpq : ∀ a, p a = true → q a = true → False) :
    List.Disjoint ((entriesFor p actions).map (·.1)) ((entriesFor q actions).map (·.1)) := by
  intro name hp hq
  obtain ⟨e, he, rfl⟩ := List.mem_map.mp hp
  obtain ⟨f, hf, hname⟩ := List.mem_map.mp hq
  obtain ⟨a, ha, hpa, rfl⟩ := mem_entriesFor.mp he
  obtain ⟨b, hb, hqb, rfl⟩ := mem_entriesFor.mp hf
  have hab : a = b := List.inj_on_of_nodup_map (nodup_names h) ha hb hname.symm
  subst hab
  exact hpq a hpa hqb

theorem held_entriesFor (h : (actions.map Action.kind).Nodup)
    (haccepted : ∀ a ∈ actions, a.IsAccepted) (p : Action → Bool) :
    Json.Held (.ofFields (entriesFor p actions)) := by
  refine Json.held_ofFields (distinct_entriesFor h p) ?_ ?_
  · intro e he
    obtain ⟨a, -, -, rfl⟩ := mem_entriesFor.mp he
    exact a.kind.not_hasPair_handlerName
  · intro e he
    obtain ⟨a, ha, -, rfl⟩ := mem_entriesFor.mp he
    exact Action.held_handlerConfig (haccepted a ha)

end Entries

/-! ### Variables -/

def signalNames : List Text :=
  [stagedVariable, assignCopilotVariable, handlerVariable, projectHandlerVariable,
   messagesVariable]

theorem nodup_signalNames : signalNames.Nodup := by
  decide +kernel

theorem signals_names_sublist (staged assigned : Bool) (handlers projectHandlers : Fields Data)
    (messages : Fields Text) :
    ((signals staged assigned handlers projectHandlers messages).map (·.1)).Sublist
      signalNames := by
  have hif : ∀ (c : Prop) [Decidable c] (name value : Text),
      ((if c then [(name, value)] else []).map Prod.fst).Sublist [name] := by
    intro c _ name value
    split
    · exact List.Sublist.refl _
    · exact List.nil_sublist _
  have hunless : ∀ (c : Prop) [Decidable c] (name value : Text),
      ((if c then [] else [(name, value)]).map Prod.fst).Sublist [name] := by
    intro c _ name value
    split
    · exact List.nil_sublist _
    · exact List.Sublist.refl _
  rw [signals]
  simp only [List.map_append]
  exact ((((hif _ _ _).append (hif _ _ _)).append (hunless _ _ _)).append
    (hunless _ _ _)).append (hunless _ _ _)

theorem distinct_signals (staged assigned : Bool) (handlers projectHandlers : Fields Data)
    (messages : Fields Text) :
    Assoc.Distinct id (signals staged assigned handlers projectHandlers messages) := by
  have hsublist := signals_names_sublist staged assigned handlers projectHandlers messages
  exact nodup_signalNames.sublist hsublist

/-- A payload that holds something is in the environment, whatever the author wrote
    under its variable. -/
theorem env_payloadVariable (trial : Bool) (b : Block) {project : Bool}
    (h : (ofBlock trial b).payload project ≠ []) :
    (ofBlock trial b).env.get? (payloadVariable project)
      = some (payloadText ((ofBlock trial b).payload project)) := by
  refine Assoc.get?_insertAll_of_mem id (distinct_signals _ _ _ _ _) ?_
  have hnonempty : ((ofBlock trial b).payload project).isEmpty = false :=
    List.isEmpty_eq_false_iff.mpr h
  cases project with
  | true =>
    have hpayload : (entriesFor (·.kind.isProject) b.actions).isEmpty = false := hnonempty
    rw [signals, hpayload]
    simp [payload, payloadVariable, ofBlock]
  | false =>
    have hpayload : (entriesFor (!·.kind.isProject) b.actions).isEmpty = false := hnonempty
    rw [signals, hpayload]
    simp [payload, payloadVariable, ofBlock]

end Plan

end SafeOutput

end WorkflowPolicy
