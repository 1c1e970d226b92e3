/-
  WorkflowPolicy/Proofs/SafeOutput/OwnField.lean
  ==============================================
  **Every option decides its own field.**  An option is given under its key or under the
  name of its field, the limit and the staging flag under one name each
  (`Kind.Decides`).  No key belongs to two fields (`Kind.Decides.unique`), and a field of
  an action depends on nothing but what stands under its own keys (`agreeAt_ofMapping`).
  So another value under a key changes the field of that key and leaves every other field
  alone, and a value that is refused counts as not given (`extract?_insert`).

  One kind looks further: labels that may be set switch on that labels are updated, so
  their key reaches the field of the labels, too (`Kind.reach`).
-/
import WorkflowPolicy.Proofs.SafeOutput.Target

namespace WorkflowPolicy.SafeOutput

/-! ### Keys and fields -/

namespace Kind

/-- The fields that every kind has besides its options. -/
def commonFields : List Text := ["max", "staged"]

/-- A field is given under a key. -/
def Decides (k : Kind) (key field : Text) : Prop :=
  key ∈ commonFields ∧ field = key
    ∨ ∃ o ∈ k.options, (key = o.key ∨ key = o.field) ∧ field = o.field

/-- The key that counts where a field is given twice. -/
def Prefers (k : Kind) (key field : Text) : Prop :=
  key ∈ commonFields ∧ field = key ∨ ∃ o ∈ k.options, key = o.key ∧ field = o.field

variable {k : Kind} {key field : Text} {o p : OptionSpec}

theorem Prefers.decides (h : k.Prefers key field) : k.Decides key field := by
  rcases h with hcommon | ⟨o, ho, hkey, hfield⟩
  · exact .inl hcommon
  · exact .inr ⟨o, ho, .inl hkey, hfield⟩

theorem decides_key (ho : o ∈ k.options) : k.Decides o.key o.field :=
  .inr ⟨o, ho, .inl rfl, rfl⟩

theorem decides_field (ho : o ∈ k.options) : k.Decides o.field o.field :=
  .inr ⟨o, ho, .inr rfl, rfl⟩

theorem decides_common (h : field ∈ commonFields) : k.Decides field field := .inl ⟨h, rfl⟩

theorem notMem_commonFields (ho : o ∈ k.options) (hkey : key = o.key ∨ key = o.field) :
    key ∉ commonFields := by
  have hmem : o.key ∈ k.options.map OptionSpec.key := List.mem_map.mpr ⟨o, ho, rfl⟩
  intro hcommon
  simp only [commonFields, List.mem_cons, List.not_mem_nil, or_false] at hcommon
  rcases hkey with rfl | rfl
  · rcases hcommon with h | h
    · exact k.max_notMem_keys (h ▸ hmem)
    · exact k.staged_notMem_keys (h ▸ hmem)
  · rcases hcommon with h | h
    · exact k.field_ne_max ho h
    · exact k.field_ne_staged ho h

theorem eq_of_sharedKey (ho : o ∈ k.options) (hp : p ∈ k.options)
    (hkey : key = o.key ∨ key = o.field) (hkey' : key = p.key ∨ key = p.field) :
    o.field = p.field := by
  rcases hkey with rfl | rfl
  · rcases hkey' with h | h
    · rw [k.eq_of_key_eq ho hp h]
    · rw [k.eq_of_field_eq_key hp ho h.symm]
  · rcases hkey' with h | h
    · rw [k.eq_of_field_eq_key ho hp h]
    · exact h

theorem Decides.unique {field' : Text} (h : k.Decides key field) (h' : k.Decides key field') :
    field = field' := by
  rcases h with ⟨hcommon, rfl⟩ | ⟨o, ho, hkey, rfl⟩
  · rcases h' with ⟨-, rfl⟩ | ⟨p, hp, hkey', rfl⟩
    · rfl
    · exact (notMem_commonFields hp hkey' hcommon).elim
  · rcases h' with ⟨hcommon, rfl⟩ | ⟨p, hp, hkey', rfl⟩
    · exact (notMem_commonFields ho hkey hcommon).elim
    · exact eq_of_sharedKey ho hp hkey hkey'

/-! ### Prepared options -/

theorem prepared_of_ne (h : k ≠ .updateDiscussion) (m : Mapping) : k.prepared m = m :=
  if_neg fun hprepared => h hprepared.1

/-- What is given is not prepared away. -/
theorem get?_prepared_of_eq_some {m : Mapping} {d : Data} (h : m.get? key = some d) :
    (k.prepared m).get? key = some d := by
  by_cases hlabels : key = "labels"
  · subst hlabels
    rw [prepared, if_neg]
    · exact h
    · rintro ⟨-, -, hnone⟩
      rw [h] at hnone
      cases hnone
  · rw [get?_prepared_of_ne k m hlabels, h]

theorem get?_prepared_of_eq_none {m : Mapping} (h : m.get? key = none)
    (hlabels : ¬ (k = .updateDiscussion ∧ key = "labels")) : (k.prepared m).get? key = none := by
  by_cases hkind : k = .updateDiscussion
  · rw [get?_prepared_of_ne k m (fun hkey => hlabels ⟨hkind, hkey⟩), h]
  · rw [prepared_of_ne hkind, h]

/-- Preparing looks at two keys, and only for one kind. -/
theorem get?_prepared_congr {m m' : Mapping} (hkey : m.get? key = m'.get? key)
    (hallowed : k = .updateDiscussion → key = "labels" →
      m.get? "allowed-labels" = m'.get? "allowed-labels") :
    (k.prepared m).get? key = (k.prepared m').get? key := by
  by_cases hlabels : key = "labels"
  · subst hlabels
    by_cases hkind : k = .updateDiscussion
    · have hvalue : m.value "allowed-labels" = m'.value "allowed-labels" :=
        Mapping.value_congr (hallowed hkind rfl)
      rw [prepared, prepared, hvalue, hkey]
      split
      · rw [Mapping.get?_insert_self, Mapping.get?_insert_self]
      · exact hkey
    · rw [prepared_of_ne hkind, prepared_of_ne hkind, hkey]
  · rw [get?_prepared_of_ne k m hlabels, get?_prepared_of_ne k m' hlabels, hkey]

end Kind

/-! ### Actions, field by field -/

theorem OptionSpec.setting?_congr {o : OptionSpec} {m m' : Mapping}
    (hkey : m.get? o.key = m'.get? o.key) (hfield : m.get? o.field = m'.get? o.field) :
    o.setting? m = o.setting? m' := by
  rw [setting?, setting?, raw?, raw?, hkey, hfield]

theorem OptionSpec.setting?_of_refused {o : OptionSpec} {m : Mapping} {d : Data}
    (hd : m.get? o.key = some d) (hread : o.rule.read? d = none) : o.setting? m = o.default := by
  rw [setting?, raw?, hd, Option.some_or, Option.bind_some, hread, Option.none_or]

theorem OptionSpec.setting?_of_absent {o : OptionSpec} {m : Mapping}
    (hkey : m.get? o.key = none) (hfield : m.get? o.field = none) : o.setting? m = o.default := by
  rw [setting?, raw?, hkey, hfield]
  rfl

namespace Action

/-- Two actions agree on a field. -/
structure AgreeAt (field : Text) (a b : Action) : Prop where
  limit : field = "max" → a.max = b.max
  staging : field = "staged" → a.staged = b.staged
  setting : a.setting? field = b.setting? field

/-- The field of an action holds what its kind has by default. -/
structure DefaultAt (field : Text) (a : Action) : Prop where
  limit : field = "max" → a.max = a.kind.defaultLimit
  staging : field = "staged" → a.staged = false
  setting : ∀ o ∈ a.kind.options, field = o.field → a.setting? field = o.default

/-- Actions of one kind that agree on its options agree on every field. -/
theorem setting?_congr {a b : Action} {field : Text} (hkind : a.kind = b.kind)
    (h : ∀ o ∈ a.kind.options, o.field = field → a.setting? o.field = b.setting? o.field) :
    a.setting? field = b.setting? field := by
  by_cases hmem : field ∈ a.kind.options.map OptionSpec.field
  · obtain ⟨o, ho, rfl⟩ := List.mem_map.mp hmem
    exact h o ho rfl
  · rw [setting?_of_notMem hmem, setting?_of_notMem (hkind ▸ hmem)]

theorem setting?_ofMapping {k : Kind} {o : OptionSpec} (ho : o ∈ k.options) (m : Mapping) :
    (ofMapping k m).setting? o.field = o.setting? (k.prepared m) := by
  have hfrom : (ofMapping k m).SettingsFrom (·.setting? (k.prepared m)) := rfl
  exact hfrom.setting?_field ho

/-- A field depends on what stands under its own keys. -/
theorem agreeAt_ofMapping {k : Kind} {m m' : Mapping} {field : Text}
    (h : ∀ key, k.Decides key field → (k.prepared m).get? key = (k.prepared m').get? key) :
    AgreeAt field (ofMapping k m) (ofMapping k m') := by
  constructor
  · rintro rfl
    have hmax : (k.prepared m).get? "max" = (k.prepared m').get? "max" :=
      h "max" (Kind.decides_common (by decide))
    show k.limit ((k.prepared m).value "max") = k.limit ((k.prepared m').value "max")
    rw [Mapping.value_congr hmax]
  · rintro rfl
    have hstaged : (k.prepared m).get? "staged" = (k.prepared m').get? "staged" :=
      h "staged" (Kind.decides_common (by decide))
    show (((k.prepared m).value "staged").flag?).getD false
      = (((k.prepared m').value "staged").flag?).getD false
    rw [Mapping.value_congr hstaged]
  · refine setting?_congr rfl ?_
    rintro o (ho : o ∈ k.options) rfl
    rw [setting?_ofMapping ho, setting?_ofMapping ho]
    exact OptionSpec.setting?_congr (h o.key (Kind.decides_key ho))
      (h o.field (Kind.decides_field ho))

theorem DefaultAt.agreeAt {field : Text} {a b : Action} (hkind : a.kind = b.kind)
    (ha : a.DefaultAt field) (hb : b.DefaultAt field) : AgreeAt field a b := by
  constructor
  · intro hfield
    rw [ha.limit hfield, hb.limit hfield, hkind]
  · intro hfield
    rw [ha.staging hfield, hb.staging hfield]
  · refine setting?_congr hkind ?_
    rintro o ho rfl
    rw [ha.setting o ho rfl, hb.setting o (hkind ▸ ho) rfl]

theorem eq_ofMapping_of_extract? {k : Kind} {m : Mapping} {a : Action}
    (h : extract? k (.map m) = some a) : a = ofMapping k m := by
  obtain ⟨o, ho, haccepted⟩ := accepted_of_extract? h
  obtain rfl : m = o := Option.some.inj ho
  exact (ofOptions_eq_accepted.mp haccepted).1.symm

end Action

/-! ### Another value under a key -/

section Insert

variable {k : Kind} {key field : Text} {v : Data} {m : Mapping}

/-- The fields that a key can change. -/
def Kind.reach (k : Kind) (key field : Text) : List Text :=
  if k = .updateDiscussion ∧ key = "allowed-labels" then [field, "labels"] else [field]

theorem Kind.mem_reach_self (k : Kind) (key field : Text) : field ∈ k.reach key field := by
  rw [reach]
  split <;> exact List.mem_cons_self

/-- The keys of every other field show what they showed before. -/
theorem Kind.get?_prepared_insert {other f : Text} (hkey : k.Decides key field)
    (hother : k.Decides other f) (hf : f ∉ k.reach key field) (m : Mapping) (v : Data) :
    (k.prepared m).get? other = (k.prepared (m.insert key v)).get? other := by
  have hne : other ≠ key := by
    rintro rfl
    obtain rfl := hother.unique hkey
    exact hf (k.mem_reach_self _ _)
  refine get?_prepared_congr (Mapping.get?_insert_of_ne hne m v).symm ?_
  rintro rfl rfl
  have hallowed : "allowed-labels" ≠ key := by
    rintro rfl
    -- the labels are within the reach of this key
    obtain rfl : "labels" = f := (decides_field labels_option.1).unique hother
    exact hf (by simp [reach])
  exact (Mapping.get?_insert_of_ne hallowed m v).symm

/-- The value is none that the field takes. -/
structure Kind.Refuses (k : Kind) (field : Text) (v : Data) : Prop where
  limit : field = "max" → Templatable.integer? v = none
  staging : field = "staged" → v.flag? = none
  setting : ∀ o ∈ k.options, field = o.field → o.rule.read? v = none

theorem Kind.Prefers.eq_of_common (h : k.Prefers key field) (hfield : field ∈ commonFields) :
    key = field := by
  rcases h with ⟨-, rfl⟩ | ⟨o, ho, -, rfl⟩
  · rfl
  · exact (notMem_commonFields ho (.inr rfl) hfield).elim

theorem Kind.Prefers.eq_key {o : OptionSpec} (h : k.Prefers key o.field) (ho : o ∈ k.options) :
    key = o.key := by
  rcases h with ⟨hcommon, hfield⟩ | ⟨p, hp, hkey, hfield⟩
  · exact (notMem_commonFields ho (.inr hfield.symm) hcommon).elim
  · rw [hkey, k.eq_of_field_eq hp ho hfield.symm]

/-- A refused value under the key that counts leaves the default. -/
theorem Action.defaultAt_of_refused (hkey : k.Prefers key field) (hv : k.Refuses field v)
    (hm : m.get? key = some v) : (ofMapping k m).DefaultAt field := by
  have hprepared : (k.prepared m).get? key = some v := Kind.get?_prepared_of_eq_some hm
  constructor
  · intro hfield
    obtain rfl : key = field := hkey.eq_of_common (by simp [hfield, Kind.commonFields])
    subst hfield
    show k.limit ((k.prepared m).value "max") = k.defaultLimit
    rw [Mapping.value, hprepared, Option.getD_some, Kind.limit, hv.limit rfl]
  · intro hfield
    obtain rfl : key = field := hkey.eq_of_common (by simp [hfield, Kind.commonFields])
    subst hfield
    show (((k.prepared m).value "staged").flag?).getD false = false
    rw [Mapping.value, hprepared, Option.getD_some, hv.staging rfl]
    rfl
  · rintro o (ho : o ∈ k.options) rfl
    obtain rfl := hkey.eq_key ho
    rw [setting?_ofMapping ho]
    exact OptionSpec.setting?_of_refused hprepared (hv.setting o ho rfl)

/-- So does a field that is not given, unless the labels are switched on for it. -/
theorem Action.defaultAt_of_absent (hkey : k.Prefers key field)
    (hlabels : ¬ (k = .updateDiscussion ∧ field = "labels")) (hkeyNone : m.get? key = none)
    (hfieldNone : m.get? field = none) : (ofMapping k m).DefaultAt field := by
  have hfieldPrepared : (k.prepared m).get? field = none :=
    Kind.get?_prepared_of_eq_none hfieldNone hlabels
  constructor
  · rintro rfl
    show k.limit ((k.prepared m).value "max") = k.defaultLimit
    rw [Mapping.value, hfieldPrepared]
    exact k.limit_null
  · rintro rfl
    show (((k.prepared m).value "staged").flag?).getD false = false
    rw [Mapping.value, hfieldPrepared]
    rfl
  · rintro o (ho : o ∈ k.options) rfl
    obtain rfl := hkey.eq_key ho
    -- preparing adds a value for the labels alone, and this is another field
    have hkeyPrepared : (k.prepared m).get? o.key = none := by
      refine Kind.get?_prepared_of_eq_none hkeyNone ?_
      rintro ⟨rfl, hkeyLabels⟩
      refine hlabels ⟨rfl, ?_⟩
      exact (Kind.decides_key ho).unique (hkeyLabels ▸ Kind.decides_field Kind.labels_option.1)
    rw [setting?_ofMapping ho]
    exact OptionSpec.setting?_of_absent hkeyPrepared hfieldPrepared

/-- Updating labels is on by being present, so no value is refused for it. -/
theorem Kind.Refuses.ne_labels (hv : k.Refuses field v) :
    ¬ (k = .updateDiscussion ∧ field = "labels") := by
  rintro ⟨rfl, rfl⟩
  have hread := hv.setting _ labels_option.1 rfl
  cases hread

end Insert

/-! ### A field without its keys -/

section Without

variable {k : Kind} {key field other : Text} {m : Mapping}

/-- What is left was there, and is still there when the key gets another value. -/
theorem get?_insert_of_withoutKeys {d : Data} (h : (m.withoutKeys key field).get? other = some d)
    (v : Data) : (m.insert key v).get? other = some d := by
  rw [Mapping.get?_withoutKeys] at h
  split at h
  · cases h
  · rename_i hne
    rw [not_or] at hne
    rw [Mapping.get?_insert_of_ne hne.1, h]

/-- An option that is left with its field name alone was not given under its key, and
    still is not. -/
theorem OptionSpec.get?_key_insert {o : OptionSpec} {d : Data} (ho : o ∈ k.options)
    (hkey : k.Decides key field) (hgiven : (m.withoutKeys key field).get? o.field = some d)
    (hnone : (m.withoutKeys key field).get? o.key = none) (v : Data) :
    (m.insert key v).get? o.key = none := by
  have hown : k.Decides o.key o.field := Kind.decides_key ho
  -- the field that is left out is not that of the option, which is still there
  have hfield : field ≠ o.field := by
    rintro rfl
    rw [Mapping.get?_withoutKeys, if_pos (.inr rfl)] at hgiven
    cases hgiven
  have hkeyNe : o.key ≠ key := by
    rintro rfl
    exact hfield (hkey.unique hown)
  have hfieldNe : o.key ≠ field := by
    rintro rfl
    rcases hkey with ⟨hcommon, hname⟩ | ⟨p, hp, -, hname⟩
    · exact hkeyNe hname
    · have hother : k.Decides o.key o.key := hname ▸ Kind.decides_field hp
      exact hfield (hother.unique hown)
  rw [Mapping.get?_withoutKeys, if_neg (not_or.mpr ⟨hkeyNe, hfieldNe⟩)] at hnone
  rw [Mapping.get?_insert_of_ne hkeyNe, hnone]

theorem OptionSpec.raw?_insert_of_withoutKeys {o : OptionSpec} {d : Data} (ho : o ∈ k.options)
    (hkey : k.Decides key field) (h : o.raw? (m.withoutKeys key field) = some d) (v : Data) :
    o.raw? (m.insert key v) = some d := by
  rw [raw?, Option.or_eq_some_iff] at h ⊢
  rcases h with h | ⟨hnone, h⟩
  · exact .inl (get?_insert_of_withoutKeys h v)
  · exact .inr ⟨get?_key_insert ho hkey h hnone v, get?_insert_of_withoutKeys h v⟩

/-- A number that is too long in what is left was there, and is still there. -/
theorem Kind.isOverlong_insert_of_withoutKeys {v : Data} (hkey : k.Decides key field)
    (h : k.isOverlong (m.withoutKeys key field) = true) : k.isOverlong (m.insert key v) = true := by
  rw [isOverlong, Bool.or_eq_true, List.any_eq_true] at h ⊢
  rcases h with hmax | ⟨o, ho, hlong⟩
  · refine .inl ?_
    cases hgiven : (m.withoutKeys key field).get? "max" with
    | none =>
      rw [Mapping.value, hgiven] at hmax
      cases hmax
    | some d =>
      rw [Mapping.value, get?_insert_of_withoutKeys hgiven v]
      rwa [Mapping.value, hgiven] at hmax
  · obtain ⟨d, hraw, hd⟩ := (Option.any_eq_true _ _).mp hlong
    refine .inr ⟨o, ho, (Option.any_eq_true _ _).mpr ⟨d, ?_, hd⟩⟩
    exact OptionSpec.raw?_insert_of_withoutKeys ho hkey hraw v

/-- Leaving a field out does not bring a wildcard to light that was not seen before. -/
theorem Action.extract?_withoutKeys {v : Data} (hkey : k.Decides key field)
    (h : extract? k (.map (m.insert key v)) ≠ none) :
    extract? k (.map (m.withoutKeys key field)) ≠ none := by
  rw [ne_eq, extract?_eq_none_iff rfl] at h ⊢
  rintro (hwildcard | ⟨htargeted, hnone, hhidden⟩ | hlong)
  · exact h (.inl (get?_insert_of_withoutKeys hwildcard v))
  · refine h (.inr (.inl ⟨htargeted, ?_, get?_insert_of_withoutKeys hhidden v⟩))
    exact OptionSpec.get?_key_insert (Kind.targetRepoOption_mem htargeted) hkey hhidden hnone v
  · exact h (.inr (.inr (Kind.isOverlong_insert_of_withoutKeys hkey hlong)))

end Without

/-! ### Two actions -/

namespace Action

/-- **Every option decides its own field.**  Two actions whose options differ in one key
    agree on every field out of its reach.  A value that the field refuses leaves the
    default, as if the field had not been given at all. -/
theorem extract?_insert {k : Kind} {m : Mapping} {key field : Text} {v : Data} {a b : Action}
    (hkey : k.Decides key field) (ha : extract? k (.map m) = some a)
    (hb : extract? k (.map (m.insert key v)) = some b) :
    a.kind = b.kind ∧ (∀ f, f ∉ k.reach key field → AgreeAt f a b)
      ∧ (k.Prefers key field → k.Refuses field v → b.DefaultAt field
        ∧ ∃ c, extract? k (.map (m.withoutKeys key field)) = some c ∧ AgreeAt field b c) := by
  have hsome : extract? k (.map (m.withoutKeys key field)) ≠ none :=
    extract?_withoutKeys hkey (hb ▸ Option.some_ne_none b)
  obtain rfl := eq_ofMapping_of_extract? ha
  obtain rfl := eq_ofMapping_of_extract? hb
  refine ⟨rfl, ?_, ?_⟩
  · intro f hf
    apply agreeAt_ofMapping
    intro other hother
    exact Kind.get?_prepared_insert hkey hother hf m v
  · intro hprefers hv
    have hrefused : (ofMapping k (m.insert key v)).DefaultAt field :=
      defaultAt_of_refused hprefers hv (m.get?_insert_self key v)
    refine ⟨hrefused, ?_⟩
    obtain ⟨c, hc⟩ := Option.ne_none_iff_exists'.mp hsome
    refine ⟨c, hc, ?_⟩
    obtain rfl := eq_ofMapping_of_extract? hc
    have habsent : (ofMapping k (m.withoutKeys key field)).DefaultAt field := by
      apply defaultAt_of_absent hprefers hv.ne_labels
      · rw [Mapping.get?_withoutKeys, if_pos (.inl rfl)]
      · rw [Mapping.get?_withoutKeys, if_pos (.inr rfl)]
    exact hrefused.agreeAt rfl habsent

/-- Labels that may be set, under both names. -/
def labelled : Mapping :=
  [(.text "allowed_labels", .list [.text "docs"]), (.text "allowed-labels", .list [.text "bug"]),
   (.text "max", .text "007")]

/-- A text for the labels is refused: the name of the field does not step in, and labels
    are no longer updated. -/
theorem extract?_insert_refused :
    ∃ a b, Kind.updateDiscussion.Decides "allowed-labels" "allowed_labels"
      ∧ extract? .updateDiscussion (.map labelled) = some a
      ∧ extract? .updateDiscussion (.map (labelled.insert "allowed-labels" "bug")) = some b
      ∧ a.setting? "labels" = some (.flag true) ∧ b.setting? "labels" = some (.flag false)
      ∧ Kind.updateDiscussion.Prefers "allowed-labels" "allowed_labels"
      ∧ Kind.updateDiscussion.Refuses "allowed_labels" "bug"
      ∧ (a.kind = b.kind
        ∧ (∀ f, f ∉ Kind.updateDiscussion.reach "allowed-labels" "allowed_labels" → AgreeAt f a b)
        ∧ (Kind.updateDiscussion.Prefers "allowed-labels" "allowed_labels" →
          Kind.updateDiscussion.Refuses "allowed_labels" "bug" → b.DefaultAt "allowed_labels"
          ∧ ∃ c, extract? .updateDiscussion
              (.map (labelled.withoutKeys "allowed-labels" "allowed_labels")) = some c
            ∧ AgreeAt "allowed_labels" b c)) := by
  have hmem : Kind.textsOption "allowed_labels" ∈ Kind.updateDiscussion.options := by
    decide +kernel
  have hname : (Kind.textsOption "allowed_labels").key = "allowed-labels" := by
    decide +kernel
  have hprefers : Kind.updateDiscussion.Prefers "allowed-labels" "allowed_labels" :=
    .inr ⟨_, hmem, hname.symm, rfl⟩
  have hrefuses : Kind.updateDiscussion.Refuses "allowed_labels" "bug" := by
    constructor
    · intro hfield
      exact absurd hfield (by decide)
    · intro hfield
      exact absurd hfield (by decide)
    · intro o ho hfield
      have heq : Kind.textsOption "allowed_labels" = o :=
        List.inj_on_of_nodup_map Kind.updateDiscussion.nodup_fields hmem ho hfield
      rw [← heq]
      rfl
  have ha : extract? .updateDiscussion (.map labelled)
      = some (ofMapping .updateDiscussion labelled) := by
    decide +kernel
  have hb : extract? .updateDiscussion (.map (labelled.insert "allowed-labels" "bug"))
      = some (ofMapping .updateDiscussion (labelled.insert "allowed-labels" "bug")) := by
    decide +kernel
  exact ⟨_, _, hprefers.decides, ha, hb, by decide +kernel, by decide +kernel, hprefers, hrefuses,
    extract?_insert hprefers.decides ha hb⟩

end Action

end WorkflowPolicy.SafeOutput
