/-
  WorkflowPolicy/Proofs/SafeOutput/Written.lean
  =============================================
  **The written form of an action, entry by entry.**  The canonical options of an
  action and the entry for its handler are one mapping with two choices of the
  limit (`Action.written`).  Under the key of an option it holds the setting of
  that option, under the two common keys the limit and the staging flag, and
  nothing else (`get?_written_key`, `get?_written_of_notMem`).

  The facts about the option table that this needs are finite, so they are checked
  kind by kind; everything after them is about any table.
-/
import WorkflowPolicy.Proofs.Assoc
import WorkflowPolicy.SafeOutput.Action

namespace WorkflowPolicy.SafeOutput

/-! ### The option table -/

theorem OptionSpec.underscore_notMem_key (o : OptionSpec) : .char '_' ∉ o.key.toList := by
  rw [key, Text.replaced, List.mem_map]
  rintro ⟨c, -, hc⟩
  split at hc <;> simp_all

theorem OptionSpec.key_eq_field {o : OptionSpec} (h : .char '_' ∉ o.field.toList) :
    o.key = o.field := by
  have hmap : (o.field.toList.map fun c => if c = .char '_' then .char '-' else c)
      = o.field.toList.map id := by
    refine List.map_congr_left ?_
    intro c hc
    have hne : c ≠ .char '_' := by
      rintro rfl
      exact h hc
    exact if_neg hne
  rw [key, Text.replaced, hmap, List.map_id, Text.ofList_toList]

namespace Kind

theorem mem_all (k : Kind) : k ∈ all := by
  cases k <;> decide

theorem name_injective : Function.Injective name := by
  intro k l h
  have hnames := congrArg ofName? h
  rw [ofName?_name, ofName?_name] at hnames
  exact Option.some.inj hnames

/-- The fields of a table are told apart, and so are its keys. -/
theorem nodup_keys (k : Kind) : (k.options.map OptionSpec.key).Nodup :=
  (List.nodup_cons.mp (List.nodup_cons.mp k.options_distinct.2).2).2

theorem nodup_fields (k : Kind) : (k.options.map OptionSpec.field).Nodup :=
  (List.nodup_cons.mp (List.nodup_cons.mp k.options_distinct.1).2).2

theorem max_notMem_keys (k : Kind) : ("max" : Text) ∉ k.options.map OptionSpec.key := fun h =>
  (List.nodup_cons.mp k.options_distinct.2).1 (List.mem_cons_of_mem _ h)

theorem staged_notMem_keys (k : Kind) : ("staged" : Text) ∉ k.options.map OptionSpec.key :=
  (List.nodup_cons.mp (List.nodup_cons.mp k.options_distinct.2).2).1

theorem field_ne_max (k : Kind) {o : OptionSpec} (ho : o ∈ k.options) : o.field ≠ "max" := by
  intro h
  have hmem : o.field ∈ k.options.map OptionSpec.field := List.mem_map.mpr ⟨o, ho, rfl⟩
  exact (List.nodup_cons.mp k.options_distinct.1).1 (List.mem_cons_of_mem _ (h ▸ hmem))

theorem field_ne_staged (k : Kind) {o : OptionSpec} (ho : o ∈ k.options) :
    o.field ≠ "staged" := by
  intro h
  have hmem : o.field ∈ k.options.map OptionSpec.field := List.mem_map.mpr ⟨o, ho, rfl⟩
  exact (List.nodup_cons.mp (List.nodup_cons.mp k.options_distinct.1).2).1 (h ▸ hmem)

theorem eq_of_key_eq (k : Kind) {o p : OptionSpec} (ho : o ∈ k.options) (hp : p ∈ k.options)
    (h : o.key = p.key) : o = p :=
  List.inj_on_of_nodup_map k.nodup_keys ho hp h

theorem eq_of_field_eq (k : Kind) {o p : OptionSpec} (ho : o ∈ k.options) (hp : p ∈ k.options)
    (h : o.field = p.field) : o = p :=
  List.inj_on_of_nodup_map k.nodup_fields ho hp h

/-- The field name of an option is the key of no other option: keys have no
    underscores, and a field without one is its own key. -/
theorem eq_of_field_eq_key (k : Kind) {o p : OptionSpec} (ho : o ∈ k.options)
    (hp : p ∈ k.options) (h : o.field = p.key) : o = p := by
  have hkey : o.key = p.key := by
    rw [← h, OptionSpec.key_eq_field]
    exact h ▸ p.underscore_notMem_key
  exact k.eq_of_key_eq ho hp hkey

theorem read?_default (k : Kind) :
    ∀ o ∈ k.options, ∀ s ∈ o.default, o.rule.read? s.toData = some s := by
  cases k <;> decide +kernel

def targetRepoOption : OptionSpec := { field := "target_repo", rule := .text }

theorem key_targetRepoOption : targetRepoOption.key = "target-repo" := by
  decide +kernel

theorem targetRepoOption_mem {k : Kind} (h : k.isTargeted = true) :
    targetRepoOption ∈ k.options := by
  rw [options, if_pos h]
  simp [targetOptions, targetRepoOption]

theorem targetRepo_notMem_fields :
    ∀ k : Kind, k.isTargeted = false → ("target_repo" : Text) ∉ k.options.map OptionSpec.field := by
  intro k
  cases k <;> decide +kernel

theorem targetRepo_notMem_keys :
    ∀ k : Kind, k.isTargeted = false → ("target-repo" : Text) ∉ k.options.map OptionSpec.key := by
  intro k
  cases k <;> decide +kernel

/-- Updating labels is an option that is never without a setting. -/
theorem labels_option :
    presenceOption "labels" ∈ updateDiscussion.options
      ∧ (presenceOption "labels").key = "labels" := by
  decide +kernel

end Kind

/-! ### Looking up settings -/

namespace Action

variable {f : OptionSpec → Option Setting} {os : List OptionSpec}

@[simp] theorem get?_settingEntry_self (o : OptionSpec) (s : Option Setting) :
    Fields.get? (settingEntry o s) o.key = s.map Setting.toData := by
  cases s <;> simp [settingEntry, Fields.get?, Assoc.get?]

theorem get?_settingEntry_of_ne {o : OptionSpec} {key : Text} (h : o.key ≠ key)
    (s : Option Setting) : Fields.get? (settingEntry o s) key = none := by
  cases s <;> simp [settingEntry, Fields.get?, Assoc.get?, h]

theorem get?_append (m n : Fields Data) (key : Text) :
    Fields.get? (m ++ n) key = (m.get? key).or (n.get? key) :=
  Assoc.get?_append id key m n

theorem get?_settings_of_notMem {key : Text} (h : key ∉ os.map OptionSpec.key) :
    Fields.get? (os.flatMap fun o => settingEntry o (f o)) key = none := by
  induction os with
  | nil => rfl
  | cons o os ih =>
    rw [List.map_cons, List.mem_cons, not_or] at h
    rw [List.flatMap_cons, get?_append, get?_settingEntry_of_ne (Ne.symm h.1), ih h.2]
    rfl

theorem get?_settings_key (h : (os.map OptionSpec.key).Nodup) {o : OptionSpec} (ho : o ∈ os) :
    Fields.get? (os.flatMap fun o => settingEntry o (f o)) o.key = (f o).map Setting.toData := by
  induction os with
  | nil => cases ho
  | cons p os ih =>
    rw [List.map_cons, List.nodup_cons] at h
    rw [List.flatMap_cons, get?_append]
    rcases List.mem_cons.mp ho with heq | hmem
    · subst heq
      rw [get?_settingEntry_self, get?_settings_of_notMem h.1]
      exact Option.or_none
    · have hne : p.key ≠ o.key := fun hk => h.1 (List.mem_map.mpr ⟨o, hmem, hk.symm⟩)
      rw [get?_settingEntry_of_ne hne, ih h.2 hmem]
      rfl

theorem get?_zip_field {os : List OptionSpec} (h : (os.map OptionSpec.field).Nodup)
    {o : OptionSpec} (ho : o ∈ os) :
    Fields.get? ((os.map (·.field)).zip (os.map f)) o.field = some (f o) := by
  have hzip : (os.map (·.field)).zip (os.map f) = os.map fun o => (o.field, f o) :=
    List.zip_map'
  rw [hzip]
  refine Assoc.get?_of_mem id ?_ (List.mem_map.mpr ⟨o, ho, rfl⟩)
  simpa [Assoc.Distinct, List.map_map, Function.comp_def] using h

/-! ### The written form -/

/-- The written form with a choice of the limit. -/
def written (a : Action) (limit : Option Data) : Fields Data :=
  limitEntry limit ++ a.settingEntries ++ a.stagedEntry

theorem toData_eq (a : Action) :
    a.toData = .ofFields (a.written (a.max.map (·.integerData))) := rfl

theorem handlerConfig_eq (a : Action) :
    a.handlerConfig = .ofFields (a.written (a.max.bind (·.limitData?))) := rfl

/-- An action whose settings are those that a function gives its options. -/
def SettingsFrom (a : Action) (f : OptionSpec → Option Setting) : Prop :=
  a.settings = a.kind.options.map f

variable {a : Action}

theorem SettingsFrom.settingEntries_eq (h : a.SettingsFrom f) :
    a.settingEntries = a.kind.options.flatMap fun o => settingEntry o (f o) := by
  have hzip : List.zipWith settingEntry a.kind.options (a.kind.options.map f)
      = a.kind.options.map fun o => settingEntry o (f o) := by
    rw [List.zipWith_map_right, List.zipWith_self]
  rw [settingEntries, h, hzip, List.flatMap]

theorem SettingsFrom.setting?_field (h : a.SettingsFrom f) {o : OptionSpec}
    (ho : o ∈ a.kind.options) : a.setting? o.field = f o := by
  rw [setting?, fields, h, get?_zip_field a.kind.nodup_fields ho]
  rfl

theorem setting?_of_notMem {field : Text}
    (h : field ∉ a.kind.options.map OptionSpec.field) : a.setting? field = none := by
  have hnone : a.fields.get? field = none := by
    refine (Assoc.get?_eq_none_iff id field a.fields).mpr ?_
    rintro ⟨name, s⟩ he rfl
    exact h (List.of_mem_zip he).1
  rw [setting?, hnone]
  rfl

theorem get?_limitEntry_of_ne (limit : Option Data) {key : Text} (h : key ≠ "max") :
    Fields.get? (limitEntry limit) key = none := by
  cases limit <;> simp [limitEntry, Fields.get?, Assoc.get?, Ne.symm h]

theorem get?_stagedEntry_of_ne (a : Action) {key : Text} (h : key ≠ "staged") :
    Fields.get? a.stagedEntry key = none := by
  unfold stagedEntry
  split <;> simp [Fields.get?, Assoc.get?, Ne.symm h]

theorem get?_written_max (h : a.SettingsFrom f) (limit : Option Data) :
    Fields.get? (a.written limit) "max" = limit := by
  have hentry : Fields.get? (limitEntry limit) "max" = limit := by
    cases limit <;> simp [limitEntry, Fields.get?, Assoc.get?]
  rw [written, get?_append, get?_append, hentry, h.settingEntries_eq,
    get?_settings_of_notMem a.kind.max_notMem_keys, get?_stagedEntry_of_ne a (by decide)]
  simp

theorem get?_written_staged (h : a.SettingsFrom f) (limit : Option Data) :
    Fields.get? (a.written limit) "staged" = if a.staged then some (.bool true) else none := by
  rw [written, get?_append, get?_append, get?_limitEntry_of_ne limit (by decide),
    h.settingEntries_eq, get?_settings_of_notMem a.kind.staged_notMem_keys, stagedEntry]
  cases a.staged <;> simp [Fields.get?, Assoc.get?]

theorem get?_written_key (h : a.SettingsFrom f) (limit : Option Data) {o : OptionSpec}
    (ho : o ∈ a.kind.options) :
    Fields.get? (a.written limit) o.key = (f o).map Setting.toData := by
  have hmem : o.key ∈ a.kind.options.map OptionSpec.key := List.mem_map.mpr ⟨o, ho, rfl⟩
  have hmax : o.key ≠ "max" := fun hk => a.kind.max_notMem_keys (hk ▸ hmem)
  have hstaged : o.key ≠ "staged" := fun hk => a.kind.staged_notMem_keys (hk ▸ hmem)
  rw [written, get?_append, get?_append, get?_limitEntry_of_ne limit hmax,
    h.settingEntries_eq, get?_settings_key a.kind.nodup_keys ho, get?_stagedEntry_of_ne a hstaged]
  simp

theorem get?_written_of_notMem (h : a.SettingsFrom f) (limit : Option Data) {key : Text}
    (hmax : key ≠ "max") (hstaged : key ≠ "staged")
    (hkey : key ∉ a.kind.options.map OptionSpec.key) :
    Fields.get? (a.written limit) key = none := by
  rw [written, get?_append, get?_append, get?_limitEntry_of_ne limit hmax,
    h.settingEntries_eq, get?_settings_of_notMem hkey, get?_stagedEntry_of_ne a hstaged]
  rfl

end Action

end WorkflowPolicy.SafeOutput
