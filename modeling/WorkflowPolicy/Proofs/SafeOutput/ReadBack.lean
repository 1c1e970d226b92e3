/-
  WorkflowPolicy/Proofs/SafeOutput/ReadBack.lean
  ==============================================
  **Actions read back.**  An action that is accepted at all reads back from its
  written form, whatever limit that form holds: `extract?_written` says that the
  kind, the staging flag and every setting come back as they were, and that the
  limit is the one which the written limit gives.

  What is written is in normal form: a setting is yielded by its rule from its
  own written form, and a limit never exceeds the ceiling (`IsLimit`).  So the
  canonical options give back the very action (`extract?_toData`), and the entry
  for a handler gives it back but for a limit that is not positive
  (`extract?_handlerConfig`).
-/
import WorkflowPolicy.Proofs.SafeOutput.Written
import WorkflowPolicy.Proofs.Templatable
import WorkflowPolicy.SafeOutput.Block

namespace WorkflowPolicy.SafeOutput

/-! ### Settings in normal form -/

/-- What an option holds reads back as itself: a setting by its rule, and no
    setting only where there is no default. -/
def OptionSpec.Holds (o : OptionSpec) (s : Option Setting) : Prop :=
  match s with
  | some s => o.rule.read? s.toData = some s
  | none => o.default = none

/-- Whatever the author writes, the option holds a setting that reads back. -/
theorem OptionSpec.holds_setting? {k : Kind} {o : OptionSpec} (ho : o ∈ k.options)
    (m : Mapping) : o.Holds (o.setting? m) := by
  unfold OptionSpec.setting?
  cases hread : (o.raw? m).bind o.rule.read? with
  | some s =>
    obtain ⟨d, -, hd⟩ := Option.bind_eq_some_iff.mp hread
    exact Rule.read?_toData hd
  | none =>
    cases hdefault : o.default with
    | none => exact hdefault
    | some s => exact k.read?_default o ho s hdefault

/-- What a rule yields it yields from a written form that is not too long. -/
theorem Rule.isOverlong_toData {r : Rule} {s : Setting} (h : r.read? s.toData = some s) :
    r.isOverlong s.toData = false := by
  cases r with
  | nameOrNumber =>
    obtain ⟨t, -, rfl⟩ := Option.map_eq_some_iff.mp h
    rfl
  | _ => rfl

/-! ### Limits in normal form -/

namespace Kind

/-- A limit that an action of the kind can have. -/
def IsLimit (k : Kind) : Option (Templatable Int) → Prop
  | none => k.defaultMax = none
  | some (.literal n) => k.exceeds n = false ∧ Decimal.isWritable n = true
  | some (.expression s) => Templatable.isExpression s = true

theorem isLimit_defaultLimit (k : Kind) : k.IsLimit k.defaultLimit := by
  cases k <;> first | rfl | exact ⟨rfl, by decide⟩

theorem isWritable_ceiling {k : Kind} {c : Int} (h : k.ceiling = some c) :
    Decimal.isWritable c = true := by
  cases k with
  | dispatchWorkflow =>
    obtain rfl := Option.some.inj h
    decide
  | _ => cases h

theorem not_exceeds_ceiling {k : Kind} {c : Int} (h : k.ceiling = some c) :
    k.exceeds c = false := by
  simp [exceeds, h]

theorem isExpression_of_integer? {d : Data} {s : Text}
    (h : Templatable.integer? d = some (.expression s)) :
    Templatable.isExpression s = true := by
  unfold Templatable.integer? at h
  split at h
  · rename_i t ht
    cases h
    cases d with
    | text u =>
      simp only [Templatable.expression?] at ht
      split at ht
      · cases ht
        assumption
      · cases ht
    | _ => cases ht
  · cases d <;> simp [Option.map_eq_some_iff] at h

theorem isLimit_limit (k : Kind) {raw : Data} (hshort : Templatable.isOverlong raw = false) :
    k.IsLimit (k.limit raw) := by
  unfold limit
  split
  · exact k.isLimit_defaultLimit
  · rename_i n hn
    split
    · rename_i hex
      cases hc : k.ceiling with
      | none => simp [exceeds, hc] at hex
      | some c => exact ⟨not_exceeds_ceiling hc, isWritable_ceiling hc⟩
    · rename_i hex
      exact ⟨Bool.eq_false_iff.mpr hex, Templatable.isWritable_of_integer? hn hshort⟩
  · rename_i t hlit ht
    cases t with
    | literal n => exact (hlit n rfl).elim
    | expression s => exact isExpression_of_integer? ht

theorem limit_int {k : Kind} {n : Int} (h : k.exceeds n = false) :
    k.limit (.int n) = some (.literal n) := by
  simp [limit, Templatable.integer?, Templatable.expression?, Data.number?, h]

theorem limit_expression {k : Kind} {s : Text} (h : Templatable.isExpression s = true) :
    k.limit (.text s) = some (.expression s) := by
  simp [limit, Templatable.integer?, Templatable.expression?, h]

theorem limit_null (k : Kind) : k.limit .null = k.defaultLimit := rfl

theorem defaultLimit_of_isLimit_none {k : Kind} (h : k.IsLimit none) : k.defaultLimit = none := by
  rw [defaultLimit, show k.defaultMax = none from h]
  rfl

theorem limit_integerData {k : Kind} {t : Option (Templatable Int)} (h : k.IsLimit t) :
    k.limit ((t.map (·.integerData)).getD .null) = t := by
  match t with
  | none => exact defaultLimit_of_isLimit_none h
  | some (.literal n) => exact limit_int h.1
  | some (.expression s) => exact limit_expression h

theorem isOverlong_integerData {k : Kind} {t : Option (Templatable Int)} (h : k.IsLimit t) :
    Templatable.isOverlong ((t.map (·.integerData)).getD .null) = false := by
  match t with
  | none => rfl
  | some (.literal n) =>
    have hwritable : Decimal.isWritable n = true := h.2
    simp [Templatable.integerData, Templatable.isOverlong, Data.isLongNumber, Data.number?,
      hwritable]
  | some (.expression s) => exact Templatable.isOverlong_of_isExpression h

/-- The limit that comes back from a handler's entry: a number that is not positive
    is left out there, so the default holds in its place. -/
def limitForHandler (k : Kind) : Option (Templatable Int) → Option (Templatable Int)
  | some (.literal n) => if 0 < n then some (.literal n) else k.defaultLimit
  | t => t

theorem limit_limitData? {k : Kind} {t : Option (Templatable Int)} (h : k.IsLimit t) :
    k.limit ((t.bind (·.limitData?)).getD .null) = k.limitForHandler t := by
  match t with
  | none => exact defaultLimit_of_isLimit_none h
  | some (.literal n) =>
    by_cases hn : 0 < n
    · simpa [Templatable.limitData?, limitForHandler, hn] using limit_int h.1
    · simp [Templatable.limitData?, limitForHandler, hn, limit_null]
  | some (.expression s) => exact limit_expression h

theorem isOverlong_limitData? {k : Kind} {t : Option (Templatable Int)} (h : k.IsLimit t) :
    Templatable.isOverlong ((t.bind (·.limitData?)).getD .null) = false := by
  match t with
  | none => rfl
  | some (.literal n) =>
    by_cases hn : 0 < n
    · have hshort := isOverlong_integerData h
      simpa [Templatable.limitData?, Templatable.integerData, hn] using hshort
    · simp [Templatable.limitData?, hn, Templatable.isOverlong, Data.isLongNumber, Data.number?]
  | some (.expression s) => exact isOverlong_integerData h

end Kind

/-! ### Accepted actions -/

namespace Action

/-- An action that its model accepts: some options give it. -/
def IsAccepted (a : Action) : Prop := ∃ m : Mapping, ofOptions a.kind m = .accepted a

theorem ofOptions_eq_accepted {k : Kind} {m : Mapping} {a : Action} :
    ofOptions k m = .accepted a ↔ ofMapping k m = a ∧ a.targetsWildcard = false
      ∧ k.isOverlong (k.prepared m) = false := by
  simp only [ofOptions]
  split
  · rename_i h
    refine iff_of_false (by simp [Verdict.refuse]) ?_
    rintro ⟨rfl, hwildcard, hshort⟩
    rw [hwildcard, hshort] at h
    cases h
  · rename_i h
    rw [Bool.or_eq_true, not_or, Bool.not_eq_true, Bool.not_eq_true] at h
    constructor
    · intro hm
      obtain rfl := Verdict.accepted.inj hm
      exact ⟨rfl, h.2, h.1⟩
    · rintro ⟨rfl, -, -⟩
      rfl

theorem accepted_of_extract? {k : Kind} {d : Data} {a : Action} (h : extract? k d = some a) :
    ∃ o, optionsOf k d = some o ∧ ofOptions k o = .accepted a := by
  obtain ⟨o, ho, h⟩ := Option.bind_eq_some_iff.mp h
  refine ⟨o, ho, ?_⟩
  split at h
  · cases h
  · cases hv : ofOptions k o with
    | accepted b =>
      rw [hv] at h
      cases h
      rfl
    | refused rs =>
      rw [hv] at h
      cases h

theorem isAccepted_of_extract? {k : Kind} {d : Data} {a : Action} (h : extract? k d = some a) :
    a.kind = k ∧ a.IsAccepted := by
  obtain rfl := Block.kind_of_extract? h
  obtain ⟨o, -, ho⟩ := accepted_of_extract? h
  exact ⟨rfl, o, ho⟩

/-- A block that was read holds accepted actions only. -/
theorem isAccepted_of_mem_ofMapping {m : Mapping} :
    ∀ a ∈ (Block.ofMapping m).actions, a.IsAccepted := by
  intro a ha
  obtain ⟨k, -, hk⟩ := List.mem_filterMap.mp ha
  obtain ⟨d, -, hd⟩ := Option.bind_eq_some_iff.mp hk
  exact (isAccepted_of_extract? hd).2

/-- What is known of an accepted action: its settings and its limit are in normal
    form, and it does not target the wildcard. -/
structure Normal (a : Action) (f : OptionSpec → Option Setting) : Prop where
  settings : a.SettingsFrom f
  holds : ∀ o ∈ a.kind.options, o.Holds (f o)
  limit : a.kind.IsLimit a.max
  notWildcard : a.targetsWildcard = false

theorem IsAccepted.normal {a : Action} (h : a.IsAccepted) : ∃ f, a.Normal f := by
  obtain ⟨m, hm⟩ := h
  obtain ⟨heq, hwild, hshort⟩ := ofOptions_eq_accepted.mp hm
  refine ⟨(·.setting? (a.kind.prepared m)), ?_, ?_, ?_, hwild⟩
  · rw [SettingsFrom]
    conv => lhs; rw [← heq]
    rfl
  · intro o ho
    exact OptionSpec.holds_setting? ho _
  · conv => rhs; rw [← heq]
    exact a.kind.isLimit_limit (Bool.or_eq_false_iff.mp hshort).1

/-! ### Reading the written form -/

namespace Normal

variable {a : Action} {f : OptionSpec → Option Setting}

theorem get?_field_eq_none (h : a.Normal f) (limit : Option Data) {o : OptionSpec}
    (ho : o ∈ a.kind.options) (hnone : f o = none) :
    Fields.get? (a.written limit) o.field = none := by
  by_cases hkey : o.field ∈ a.kind.options.map OptionSpec.key
  · obtain ⟨p, hp, hpo⟩ := List.mem_map.mp hkey
    obtain rfl := a.kind.eq_of_field_eq_key ho hp hpo.symm
    rw [← hpo, get?_written_key h.settings limit ho, hnone]
    rfl
  · exact get?_written_of_notMem h.settings limit (a.kind.field_ne_max ho)
      (a.kind.field_ne_staged ho) hkey

theorem raw?_written (h : a.Normal f) (limit : Option Data) {o : OptionSpec}
    (ho : o ∈ a.kind.options) :
    o.raw? (a.written limit).toMapping = (f o).map Setting.toData := by
  rw [OptionSpec.raw?, Fields.get?_toMapping, Fields.get?_toMapping,
    get?_written_key h.settings limit ho]
  cases hf : f o with
  | none => rw [h.get?_field_eq_none limit ho hf]; rfl
  | some s => rfl

theorem setting?_written (h : a.Normal f) (limit : Option Data) {o : OptionSpec}
    (ho : o ∈ a.kind.options) : o.setting? (a.written limit).toMapping = f o := by
  have hholds := h.holds o ho
  rw [OptionSpec.setting?, h.raw?_written limit ho]
  cases hf : f o with
  | none =>
    rw [hf] at hholds
    exact hholds
  | some s =>
    rw [hf] at hholds
    have hread : o.rule.read? s.toData = some s := hholds
    simp [hread]

theorem settings_written (h : a.Normal f) (limit : Option Data) :
    a.kind.options.map (·.setting? (a.written limit).toMapping) = a.settings := by
  rw [h.settings]
  exact List.map_congr_left fun o ho => h.setting?_written limit ho

theorem staged_written (h : a.Normal f) (limit : Option Data) :
    (((a.written limit).toMapping.value "staged").flag?).getD false = a.staged := by
  rw [Mapping.value, Fields.get?_toMapping, get?_written_staged h.settings]
  cases a.staged <;> rfl

theorem max_written (h : a.Normal f) (limit : Option Data) :
    (a.written limit).toMapping.value "max" = limit.getD .null := by
  rw [Mapping.value, Fields.get?_toMapping, get?_written_max h.settings]

/-- A setting in its written form is no number where a text is asked for. -/
theorem isOverlong_written (h : a.Normal f) {limit : Option Data}
    (hlimit : Templatable.isOverlong (limit.getD .null) = false) :
    a.kind.isOverlong (a.written limit).toMapping = false := by
  rw [Kind.isOverlong, h.max_written, hlimit, Bool.false_or, List.any_eq_false]
  intro o ho
  have hholds := h.holds o ho
  rw [OptionSpec.isOverlong, h.raw?_written limit ho]
  cases hf : f o with
  | none => simp
  | some s =>
    rw [hf] at hholds
    rw [Option.map_some, Option.any_some, Bool.not_eq_true]
    exact Rule.isOverlong_toData hholds

/-- The written form is prepared already: labels stand in it whenever the kind
    could imply them. -/
theorem prepared_written (h : a.Normal f) (limit : Option Data) :
    a.kind.prepared (a.written limit).toMapping = (a.written limit).toMapping := by
  rw [Kind.prepared, if_neg]
  rintro ⟨hkind, -, hlabels⟩
  obtain ⟨hmem, hkey⟩ := Kind.labels_option
  rw [← hkind] at hmem
  have hset := get?_written_key h.settings limit hmem
  have hholds := h.holds _ hmem
  rw [hkey, ← Fields.get?_toMapping, hlabels] at hset
  rw [Option.map_eq_none_iff.mp hset.symm] at hholds
  cases hholds

/-- The target repository is written under its key, and nothing under the name of its
    field. -/
theorem get?_written_target (h : a.Normal f) (limit : Option Data) :
    Fields.get? (a.written limit) "target-repo" = a.targetRepo?.map Data.text := by
  cases htargeted : a.kind.isTargeted with
  | false =>
    have hnone : a.targetRepo? = none := by
      rw [targetRepo?, setting?_of_notMem (a.kind.targetRepo_notMem_fields htargeted)]
      rfl
    rw [hnone, get?_written_of_notMem h.settings limit (by decide) (by decide)
      (a.kind.targetRepo_notMem_keys htargeted)]
    rfl
  | true =>
    have ho := Kind.targetRepoOption_mem htargeted
    have hset : a.setting? "target_repo" = f Kind.targetRepoOption := h.settings.setting?_field ho
    have hget := get?_written_key h.settings limit ho
    have hholds := h.holds _ ho
    rw [Kind.key_targetRepoOption] at hget
    rw [hget, targetRepo?, hset]
    cases hf : f Kind.targetRepoOption with
    | none => rfl
    | some s =>
      -- the setting is read by the rule of texts, so it is a text
      rw [hf] at hholds
      obtain ⟨repo, -, rfl⟩ := Option.map_eq_some_iff.mp hholds
      rfl

theorem get?_written_targetField (h : a.Normal f) (limit : Option Data) :
    Fields.get? (a.written limit) "target_repo" = none := by
  refine get?_written_of_notMem h.settings limit (by decide) (by decide) ?_
  intro hkey
  obtain ⟨o, -, ho⟩ := List.mem_map.mp hkey
  have hunderscore := o.underscore_notMem_key
  rw [ho] at hunderscore
  exact hunderscore (by decide)

theorem targetRepo?_ne_wildcard (h : a.Normal f) : a.targetRepo? ≠ some wildcardRepo := by
  have hnot := h.notWildcard
  rw [targetsWildcard, beq_eq_false_iff_ne] at hnot
  exact hnot

theorem namesWildcard_written (h : a.Normal f) (limit : Option Data) :
    namesWildcard (.map (a.written limit).toMapping) = false := by
  rw [namesWildcard, beq_eq_false_iff_ne, Fields.get?_toMapping, h.get?_written_target]
  intro hget
  obtain ⟨repo, hrepo, htext⟩ := Option.map_eq_some_iff.mp hget
  obtain rfl := Data.text.inj htext
  exact h.targetRepo?_ne_wildcard hrepo

theorem ofMapping_written (h : a.Normal f) (limit : Option Data) :
    ofMapping a.kind (a.written limit).toMapping
      = { a with max := a.kind.limit (limit.getD .null) } := by
  simp only [ofMapping, h.prepared_written, h.max_written, h.staged_written, h.settings_written]

/-- **The written form reads back.**  Kind, staging and settings are those of the
    action, and the limit is the one that the written limit gives. -/
theorem extract?_written (h : a.Normal f) {limit : Option Data}
    (hlimit : Templatable.isOverlong (limit.getD .null) = false) :
    extract? a.kind (.ofFields (a.written limit))
      = some { a with max := a.kind.limit (limit.getD .null) } := by
  have haccepted : ofOptions a.kind (a.written limit).toMapping
      = .accepted { a with max := a.kind.limit (limit.getD .null) } := by
    refine ofOptions_eq_accepted.mpr ⟨h.ofMapping_written limit, h.notWildcard, ?_⟩
    rw [h.prepared_written]
    exact h.isOverlong_written hlimit
  have hoptions : optionsOf a.kind (.ofFields (a.written limit))
      = some (a.written limit).toMapping := rfl
  rw [extract?, hoptions, Option.bind_some, h.namesWildcard_written, haccepted]
  rfl

end Normal

/-- The entry for a handler gives the action back but for a limit that is not
    positive, in whose place the default comes. -/
theorem extract?_handlerConfig {a : Action} (h : a.IsAccepted) :
    extract? a.kind a.handlerConfig
      = some { a with max := a.kind.limitForHandler a.max } := by
  obtain ⟨f, hf⟩ := h.normal
  rw [handlerConfig_eq, hf.extract?_written (Kind.isOverlong_limitData? hf.limit),
    Kind.limit_limitData? hf.limit]

theorem IsAccepted.reads_back {a : Action} (h : a.IsAccepted) :
    extract? a.kind a.toData = some a := by
  obtain ⟨f, hf⟩ := h.normal
  rw [toData_eq, hf.extract?_written (Kind.isOverlong_integerData hf.limit),
    Kind.limit_integerData hf.limit]

theorem IsAccepted.ofRecord_toData {a : Action} (h : a.IsAccepted) :
    ofRecord a.kind a.toData = .accepted a := by
  obtain ⟨f, hf⟩ := h.normal
  have hwritten := hf.ofMapping_written (a.max.map (·.integerData))
  rw [Kind.limit_integerData hf.limit] at hwritten
  have hshort := hf.isOverlong_written (Kind.isOverlong_integerData hf.limit)
  rw [← hf.prepared_written] at hshort
  exact ofOptions_eq_accepted.mpr ⟨hwritten, hf.notWildcard, hshort⟩

/-- **Round trip of actions.**  The canonical options of an action that was read for
    a kind, from whatever value, are read for that kind as the same action. -/
theorem extract?_toData {k : Kind} {d : Data} {a : Action} (h : extract? k d = some a) :
    extract? k a.toData = some a := by
  obtain ⟨hkind, haccepted⟩ := isAccepted_of_extract? h
  rw [← hkind]
  exact haccepted.reads_back

/-- A pull request written with digits for the limit, a field name for a key, one name
    for a list, an expression, a fraction and two malformed options. -/
def loosePullRequest : Data :=
  .map
    [(.text "max", .text "007"),
     (.text "title_prefix", .text "[bot] "),
     (.text "labels", .list [.text "a", .int 3]),
     (.text "reviewers", .text "octocat"),
     (.text "draft", .text "$\x7b\x7b inputs.draft \x7d\x7d"),
     (.text "if-no-changes", .text "never"),
     (.text "max-patch-size", .float (.finite false 7177611906121728 (-49))),
     (.text "staged", .bool true)]

theorem extract?_toData_loose :
    ∃ a, extract? .createPullRequest loosePullRequest = some a
      ∧ a.max = some (.literal 7) ∧ a.setting? "max_patch_size" = some (.number 12)
      ∧ extract? .createPullRequest a.toData = some a := by
  have h : extract? .createPullRequest loosePullRequest
      = some (.mk .createPullRequest (some (.literal 7)) true
          [none, none, none, none, some (.text "[bot] "), some (.texts ["a"]),
           some (.texts ["octocat"]),
           some (.template (.expression "$\x7b\x7b inputs.draft \x7d\x7d")), none, none,
           some (.number 12), none]) := by
    decide +kernel
  exact ⟨_, h, rfl, by decide +kernel, extract?_toData h⟩

end Action

end WorkflowPolicy.SafeOutput
