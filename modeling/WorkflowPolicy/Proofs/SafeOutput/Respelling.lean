/-
  WorkflowPolicy/Proofs/SafeOutput/Respelling.lean
  ================================================
  **Both spellings of an option.**  An option stands under its key or under the name of
  its field.  Options are respelled when some of their keys give way to the names of the
  fields (`Kind.Respells`); what an option is given stays the same then
  (`Kind.Respells.raw?_eq`).

  Two readers look under the key alone: the test for the wildcard as a target, and the
  rule that labels that may be set imply that labels are updated.  So a respelled wildcard
  is hidden from the one (`Kind.HidesTarget`), and respelled labels of an action imply
  nothing (`Kind.DropsLabels`).  Any other respelling leaves the reading of a block as it
  was (`extract_respelled`).
-/
import WorkflowPolicy.Proofs.Workflow.Rearrangement
import WorkflowPolicy.Proofs.Workflow.Rejection

namespace WorkflowPolicy.SafeOutput

/-! ### Two spellings -/

namespace OptionSpec

variable {o : OptionSpec} {m : Mapping}

theorem underscore_mem_field (h : o.key ≠ o.field) : .char '_' ∈ o.field.toList := by
  by_contra hnot
  exact h (key_eq_field hnot)

theorem hyphen_mem_key (h : o.key ≠ o.field) : .char '-' ∈ o.key.toList := by
  rw [key, Text.replaced, List.mem_map]
  exact ⟨.char '_', underscore_mem_field h, rfl⟩

theorem raw?_cons_key (v : Data) : o.raw? ((.text o.key, v) :: m) = some v := by
  rw [raw?, Mapping.get?_cons_self, Option.some_or]

/-- A value under the name of the field counts when nothing stands under the key. -/
theorem raw?_cons_field (v : Data) (h : m.get? o.key = none) :
    o.raw? ((.text o.field, v) :: m) = some v := by
  by_cases hsame : o.key = o.field
  · rw [← hsame, raw?_cons_key]
  · have hne : Data.text o.field ≠ o.key := by simpa using Ne.symm hsame
    rw [raw?, Mapping.get?_cons_of_ne hne, h, Mapping.get?_cons_self, Option.none_or]

theorem raw?_cons_of_ne {key : Data} (hkey : key ≠ o.key) (hfield : key ≠ o.field) (v : Data) :
    o.raw? ((key, v) :: m) = o.raw? m := by
  rw [raw?, raw?, Mapping.get?_cons_of_ne hkey, Mapping.get?_cons_of_ne hfield]

end OptionSpec

namespace Kind

variable {k : Kind} {m n : Mapping} {o p : OptionSpec} {name : Text} {v : Data}

/-- The same options with some keys replaced by the names of their fields. -/
inductive Respells (k : Kind) : Mapping → Mapping → Prop where
  | nil : Respells k [] []
  | keep {m n : Mapping} (key v : Data) (h : Respells k m n) :
      Respells k ((key, v) :: m) ((key, v) :: n)
  | rename {m n : Mapping} {o : OptionSpec} (ho : o ∈ k.options) (v : Data)
      (h : Respells k m n) : Respells k ((.text o.key, v) :: m) ((.text o.field, v) :: n)

/-- No option is given in both spellings. -/
def SpellsOnce (k : Kind) (m : Mapping) : Prop :=
  ∀ o ∈ k.options, o.key ≠ o.field → m.get? o.key = none ∨ m.get? o.field = none

/-- The name is no spelling of an option that has two. -/
def OneSpelling (k : Kind) (name : Text) : Prop :=
  ∀ o ∈ k.options, o.key ≠ o.field → o.key ≠ name ∧ o.field ≠ name

theorem oneSpelling_of_plain (hhyphen : .char '-' ∉ name.toList)
    (hunderscore : .char '_' ∉ name.toList) : k.OneSpelling name := by
  intro o _ hne
  constructor
  · rintro rfl
    exact hhyphen (OptionSpec.hyphen_mem_key hne)
  · rintro rfl
    exact hunderscore (OptionSpec.underscore_mem_field hne)

theorem oneSpelling_key (ho : o ∈ k.options) (h : o.key = o.field) : k.OneSpelling o.key := by
  intro p hp hne
  constructor
  · intro hkey
    obtain rfl := k.eq_of_key_eq hp ho hkey
    exact hne h
  · intro hfield
    obtain rfl := k.eq_of_field_eq_key hp ho hfield
    exact hne h

/-- Kinds that act on nothing have no target to spell. -/
theorem oneSpelling_target (h : k.isTargeted = false) : k.OneSpelling "target-repo" := by
  intro o ho hne
  constructor
  · intro hkey
    exact k.targetRepo_notMem_keys h (List.mem_map.mpr ⟨o, ho, hkey⟩)
  · intro hfield
    have hunderscore := OptionSpec.underscore_mem_field hne
    rw [hfield] at hunderscore
    revert hunderscore
    decide

/-- The spellings of two options of a kind are four different texts. -/
theorem spelling_ne (hp : p ∈ k.options) (ho : o ∈ k.options) (hpo : p ≠ o) :
    (Data.text p.key ≠ o.key ∧ Data.text p.key ≠ o.field)
      ∧ Data.text p.field ≠ o.key ∧ Data.text p.field ≠ o.field := by
  refine ⟨⟨?_, ?_⟩, ?_, ?_⟩
  · exact fun heq => hpo (k.eq_of_key_eq hp ho (Data.text.inj heq))
  · exact fun heq => hpo (k.eq_of_field_eq_key ho hp (Data.text.inj heq).symm).symm
  · exact fun heq => hpo (k.eq_of_field_eq_key hp ho (Data.text.inj heq))
  · exact fun heq => hpo (k.eq_of_field_eq hp ho (Data.text.inj heq))

/-! ### What respelled options hold -/

namespace Respells

theorem get?_eq (h : k.Respells m n) (hname : k.OneSpelling name) :
    n.get? name = m.get? name := by
  induction h with
  | nil => rfl
  | keep key v h ih =>
    by_cases hkey : key = name
    · rw [hkey, Mapping.get?_cons_self, Mapping.get?_cons_self]
    · rw [Mapping.get?_cons_of_ne hkey, Mapping.get?_cons_of_ne hkey, ih]
  | @rename m n o ho v h ih =>
    by_cases hkey : o.key = name
    · have hfield : o.field = name := by
        by_contra hne
        exact (hname o ho (fun hsame => hne (hsame ▸ hkey))).1 hkey
      rw [hkey, hfield, Mapping.get?_cons_self, Mapping.get?_cons_self]
    · have hfield : o.field ≠ name := by
        intro heq
        exact (hname o ho (fun hsame => hkey (hsame.trans heq))).2 heq
      rw [Mapping.get?_cons_of_ne (by simpa using hfield),
        Mapping.get?_cons_of_ne (by simpa using hkey), ih]

/-- What stands under a key has stood there before. -/
theorem get?_key (h : k.Respells m n) (hm : Assoc.Distinct Data.keyForm m) (ho : o ∈ k.options)
    (hv : n.get? o.key = some v) : m.get? o.key = some v := by
  induction h with
  | nil => exact hv
  | keep key w h ih =>
    by_cases hkey : key = o.key
    · rw [hkey, Mapping.get?_cons_self] at hv ⊢
      exact hv
    · rw [Mapping.get?_cons_of_ne hkey] at hv ⊢
      exact ih ((Assoc.distinct_cons Data.keyForm).mp hm).2 hv
  | @rename m n p hp w h ih =>
    obtain ⟨hnone, hrest⟩ := (Assoc.distinct_cons Data.keyForm).mp hm
    by_cases hfield : p.field = o.key
    · obtain rfl := k.eq_of_field_eq_key hp ho hfield
      rw [hfield, Mapping.get?_cons_self] at hv
      rw [Mapping.get?_cons_self, hv]
    · rw [Mapping.get?_cons_of_ne (by simpa using hfield)] at hv
      have hfound : m.get? o.key = some v := ih hrest hv
      have hkey : p.key ≠ o.key := by
        -- no second entry stands under the key that was replaced
        intro heq
        rw [heq] at hnone
        rw [Mapping.get?, hnone] at hfound
        cases hfound
      rw [Mapping.get?_cons_of_ne (by simpa using hkey), hfound]

theorem get?_key_eq_none (h : k.Respells m n) (hm : Assoc.Distinct Data.keyForm m)
    (ho : o ∈ k.options) (hnone : m.get? o.key = none) : n.get? o.key = none := by
  cases hv : n.get? o.key with
  | none => rfl
  | some v =>
    rw [h.get?_key hm ho hv] at hnone
    cases hnone

/-- **What an option is given does not depend on its spelling.** -/
theorem raw?_eq (h : k.Respells m n) (hm : Assoc.Distinct Data.keyForm m) (hones : k.SpellsOnce m)
    (ho : o ∈ k.options) : o.raw? n = o.raw? m := by
  by_cases hsame : o.key = o.field
  · have hget := h.get?_eq (oneSpelling_key ho hsame)
    rw [OptionSpec.raw?, OptionSpec.raw?, ← hsame, hget]
  · have honce : m.get? o.key = none ∨ m.get? o.field = none := hones o ho hsame
    clear hones
    -- along the entries: what is left of the options gives the option at most once, too
    induction h with
    | nil => rfl
    | @keep m n key v h ih =>
      have hrest := ((Assoc.distinct_cons Data.keyForm).mp hm).2
      by_cases hkey : key = o.key
      · rw [hkey, OptionSpec.raw?_cons_key, OptionSpec.raw?_cons_key]
      · rw [Mapping.get?_cons_of_ne hkey] at honce
        by_cases hfield : key = o.field
        · rw [hfield, Mapping.get?_cons_self] at honce
          have hnone : m.get? o.key = none := honce.resolve_right (Option.some_ne_none v)
          rw [hfield, OptionSpec.raw?_cons_field v hnone,
            OptionSpec.raw?_cons_field v (h.get?_key_eq_none hrest ho hnone)]
        · rw [Mapping.get?_cons_of_ne hfield] at honce
          rw [OptionSpec.raw?_cons_of_ne hkey hfield, OptionSpec.raw?_cons_of_ne hkey hfield,
            ih hrest honce]
    | @rename m n p hp v h ih =>
      obtain ⟨hnone, hrest⟩ := (Assoc.distinct_cons Data.keyForm).mp hm
      by_cases hpo : p = o
      · subst hpo
        rw [OptionSpec.raw?_cons_key,
          OptionSpec.raw?_cons_field v (h.get?_key_eq_none hrest hp hnone)]
      · obtain ⟨⟨hkey, hkeyField⟩, hfieldKey, hfield⟩ := spelling_ne hp ho hpo
        rw [Mapping.get?_cons_of_ne hkey, Mapping.get?_cons_of_ne hkeyField] at honce
        rw [OptionSpec.raw?_cons_of_ne hkey hkeyField, OptionSpec.raw?_cons_of_ne hfieldKey hfield,
          ih hrest honce]

/-- Nor does whether a number among the options is too long. -/
theorem isOverlong_eq (h : k.Respells m n) (hm : Assoc.Distinct Data.keyForm m)
    (hones : k.SpellsOnce m) : k.isOverlong n = k.isOverlong m := by
  have hmax : n.get? "max" = m.get? "max" :=
    h.get?_eq (oneSpelling_of_plain (by decide) (by decide))
  have hoption : ∀ o ∈ k.options, o.isOverlong n = o.isOverlong m := by
    intro o ho
    rw [OptionSpec.isOverlong, OptionSpec.isOverlong, h.raw?_eq hm hones ho]
  rw [isOverlong, isOverlong, Mapping.value_congr hmax, any_options_congr hoption]

end Respells

/-! ### The target -/

/-- The wildcard stood under the key and stands under the name of the field now. -/
def HidesTarget (k : Kind) (m n : Mapping) : Prop :=
  m.get? "target-repo" = some (.text Action.wildcardRepo) ∧ k.HidesWildcard n

namespace Respells

theorem namedTarget?_eq (h : k.Respells m n) (hm : Assoc.Distinct Data.keyForm m)
    (hones : k.SpellsOnce m) : k.namedTarget? n = k.namedTarget? m := by
  rw [namedTarget?, namedTarget?]
  cases htargeted : k.isTargeted with
  | false => rfl
  | true =>
    have hraw := h.raw?_eq hm hones (targetRepoOption_mem htargeted)
    rw [OptionSpec.raw?, OptionSpec.raw?, key_targetRepoOption] at hraw
    exact congrArg (·.bind Data.text?) hraw

theorem get?_target (h : k.Respells m n) (hm : Assoc.Distinct Data.keyForm m)
    (hv : n.get? "target-repo" = some v) : m.get? "target-repo" = some v := by
  cases htargeted : k.isTargeted with
  | false => rwa [h.get?_eq (oneSpelling_target htargeted)] at hv
  | true =>
    rw [← key_targetRepoOption] at hv ⊢
    exact h.get?_key hm (targetRepoOption_mem htargeted) hv

/-- Unless it is hidden, the wildcard is seen as before. -/
theorem namesWildcard_eq (h : k.Respells m n) (hm : Assoc.Distinct Data.keyForm m)
    (hones : k.SpellsOnce m) (hhides : ¬ k.HidesTarget m n) :
    Action.namesWildcard (.map m) = Action.namesWildcard (.map n) := by
  rw [Bool.eq_iff_iff, Action.namesWildcard_map, Action.namesWildcard_map]
  constructor
  · intro hwildcard
    cases htargeted : k.isTargeted with
    | false => rw [h.get?_eq (oneSpelling_target htargeted), hwildcard]
    | true =>
      have hnamed : k.namedTarget? n = some Action.wildcardRepo := by
        rw [h.namedTarget?_eq hm hones]
        exact namedTarget?_eq_wildcard.mpr (.inl ⟨htargeted, hwildcard⟩)
      rcases namedTarget?_eq_wildcard.mp hnamed with ⟨-, hkey⟩ | hhidden
      · exact hkey
      · exact (hhides ⟨hwildcard, hhidden⟩).elim
  · exact h.get?_target hm

end Respells

/-! ### Implied labels -/

/-- Labels that may be set are listed under their key, and nothing is said about updating
    labels. -/
def ImpliesLabels (k : Kind) (m : Mapping) : Prop :=
  k = .updateDiscussion ∧ ((m.value "allowed-labels").texts?).getD [] ≠ []
    ∧ m.get? "labels" = none

/-- The labels that may be set implied that labels are updated, and their key is gone.
    Options that name the wildcard or hold a number that is too long are refused in any
    case. -/
def DropsLabels (k : Kind) (m n : Mapping) : Prop :=
  k.ImpliesLabels m ∧ n.get? "allowed-labels" = none
    ∧ k.namedTarget? m ≠ some Action.wildcardRepo ∧ k.isOverlong m = false

theorem prepared_of_implied (h : k.ImpliesLabels m) :
    k.prepared m = m.insert "labels" (.bool true) :=
  if_pos h

theorem prepared_of_not_implied (h : ¬ k.ImpliesLabels m) : k.prepared m = m := if_neg h

theorem allowedLabels_option :
    textsOption "allowed_labels" ∈ updateDiscussion.options
      ∧ (textsOption "allowed_labels").key = "allowed-labels" := by
  decide +kernel

theorem oneSpelling_labels : k.OneSpelling "labels" :=
  oneSpelling_of_plain (by decide) (by decide)

theorem key_ne_labels (h : o.field ≠ "labels") : o.key ≠ "labels" := by
  by_cases hsame : o.key = o.field
  · rwa [hsame]
  · intro hkey
    have hhyphen := OptionSpec.hyphen_mem_key hsame
    rw [hkey] at hhyphen
    revert hhyphen
    decide

theorem raw?_prepared_of_ne (h : o.field ≠ "labels") : o.raw? (k.prepared m) = o.raw? m := by
  rw [OptionSpec.raw?, OptionSpec.raw?, get?_prepared_of_ne k m (key_ne_labels h),
    get?_prepared_of_ne k m h]

theorem raw?_prepared_of_implied (hfield : o.field = "labels") (h : k.ImpliesLabels m) :
    o.raw? (k.prepared m) = some (.bool true) := by
  have hkey : o.key = "labels" := by
    rw [OptionSpec.key_eq_field, hfield]
    rw [hfield]
    decide
  rw [OptionSpec.raw?, hkey, prepared_of_implied h, Mapping.get?_insert_self, Option.some_or]

namespace Respells

theorem impliesLabels_iff (h : k.Respells m n) (hm : Assoc.Distinct Data.keyForm m) :
    k.ImpliesLabels n ↔ k.ImpliesLabels m ∧ n.get? "allowed-labels" ≠ none := by
  by_cases hkind : k = .updateDiscussion
  · subst hkind
    have hlabels := h.get?_eq oneSpelling_labels
    cases hv : n.get? "allowed-labels" with
    | none => simp [ImpliesLabels, Mapping.value, hv, Data.texts?]
    | some v =>
      have hbefore : m.get? "allowed-labels" = some v := by
        rw [← allowedLabels_option.2] at hv ⊢
        exact h.get?_key hm allowedLabels_option.1 hv
      simp [ImpliesLabels, Mapping.value, hv, hbefore, hlabels]
  · simp [ImpliesLabels, hkind]

/-- A setting does not depend on the spelling, but for the labels that are implied. -/
theorem setting?_eq (h : k.Respells m n) (hm : Assoc.Distinct Data.keyForm m)
    (hones : k.SpellsOnce m) (ho : o ∈ k.options)
    (hlabels : o.field = "labels" → (k.ImpliesLabels n ↔ k.ImpliesLabels m)) :
    o.setting? (k.prepared m) = o.setting? (k.prepared n) := by
  have hraw := h.raw?_eq hm hones ho
  have hprepared : o.raw? (k.prepared m) = o.raw? (k.prepared n) := by
    by_cases hfield : o.field = "labels"
    · by_cases himplied : k.ImpliesLabels m
      · rw [raw?_prepared_of_implied hfield himplied,
          raw?_prepared_of_implied hfield ((hlabels hfield).mpr himplied)]
      · rw [prepared_of_not_implied himplied,
          prepared_of_not_implied fun hn => himplied ((hlabels hfield).mp hn), hraw]
    · rw [raw?_prepared_of_ne hfield, raw?_prepared_of_ne hfield, hraw]
  rw [OptionSpec.setting?, OptionSpec.setting?, hprepared]

end Respells

end Kind

/-! ### Actions -/

namespace Action

variable {k : Kind} {m n : Mapping} {field : Text}

theorem staged_ofMapping (k : Kind) (m : Mapping) :
    (ofMapping k m).staged = ((m.value "staged").flag?).getD false := by
  have hget : (k.prepared m).get? "staged" = m.get? "staged" :=
    k.get?_prepared_of_ne m (by decide)
  show (((k.prepared m).value "staged").flag?).getD false = _
  rw [Mapping.value_congr hget]

/-- Options determine an action field by field. -/
theorem ofMapping_ext (h : ∀ field, AgreeAt field (ofMapping k m) (ofMapping k n)) :
    ofMapping k m = ofMapping k n := by
  have hsettings : k.options.map (·.setting? (k.prepared m))
      = k.options.map (·.setting? (k.prepared n)) := by
    apply List.map_congr_left
    intro o ho
    have hset := (h o.field).setting
    rwa [setting?_ofMapping ho, setting?_ofMapping ho] at hset
  have hmax : (ofMapping k m).max = (ofMapping k n).max := (h "max").limit rfl
  have hstaged : (ofMapping k m).staged = (ofMapping k n).staged := (h "staged").staging rfl
  rw [ofMapping, ofMapping, Action.mk.injEq]
  exact ⟨rfl, hmax, hstaged, hsettings⟩

theorem agreeAt_respelled (h : k.Respells m n) (hm : Assoc.Distinct Data.keyForm m)
    (hones : k.SpellsOnce m)
    (hlabels : field = "labels" → (k.ImpliesLabels n ↔ k.ImpliesLabels m)) :
    AgreeAt field (ofMapping k m) (ofMapping k n) := by
  constructor
  · intro _
    have hmax : n.get? "max" = m.get? "max" :=
      h.get?_eq (Kind.oneSpelling_of_plain (by decide) (by decide))
    rw [max_ofMapping, max_ofMapping, Mapping.value_congr hmax]
  · intro _
    have hstaged : n.get? "staged" = m.get? "staged" :=
      h.get?_eq (Kind.oneSpelling_of_plain (by decide) (by decide))
    rw [staged_ofMapping, staged_ofMapping, Mapping.value_congr hstaged]
  · refine setting?_congr rfl ?_
    rintro o (ho : o ∈ k.options) rfl
    rw [setting?_ofMapping ho, setting?_ofMapping ho]
    exact h.setting?_eq hm hones ho hlabels

theorem extract?_of_refused (h : k.namedTarget? m = some wildcardRepo ∨ k.isOverlong m = true) :
    extract? k (.map m) = none := by
  have hrefused := toOption_ofOptions_eq_none.mpr h
  rw [extract?, optionsOf, Option.bind_some, hrefused]
  exact ite_self none

/-- Neither hidden nor dropped, the options give the same action. -/
theorem extract?_respelled (h : k.Respells m n) (hm : Assoc.Distinct Data.keyForm m)
    (hones : k.SpellsOnce m) (hhides : ¬ k.HidesTarget m n) (hdrops : ¬ k.DropsLabels m n) :
    extract? k (.map m) = extract? k (.map n) := by
  have hnamed := h.namedTarget?_eq hm hones
  have hlong := h.isOverlong_eq hm hones
  by_cases hrefused : k.namedTarget? m = some wildcardRepo ∨ k.isOverlong m = true
  · have hrefused' : k.namedTarget? n = some wildcardRepo ∨ k.isOverlong n = true := by
      rwa [hnamed, hlong]
    rw [extract?_of_refused hrefused, extract?_of_refused hrefused']
  · rw [not_or, Bool.not_eq_true] at hrefused
    have hlabels : k.ImpliesLabels n ↔ k.ImpliesLabels m := by
      rw [h.impliesLabels_iff hm]
      exact and_iff_left_of_imp fun himplied hnone => hdrops ⟨himplied, hnone, hrefused⟩
    have haction : ofMapping k m = ofMapping k n :=
      ofMapping_ext fun field => agreeAt_respelled h hm hones fun _ => hlabels
    have hoptions : ofOptions k m = ofOptions k n := by
      rw [ofOptions, ofOptions, haction, k.isOverlong_prepared, k.isOverlong_prepared, hlong]
    rw [extract?, extract?, optionsOf, optionsOf, Option.bind_some, Option.bind_some, hoptions,
      h.namesWildcard_eq hm hones hhides]

theorem extract?_of_named (htargeted : k.isTargeted = true)
    (h : k.namedTarget? m ≠ some wildcardRepo) (hshort : k.isOverlong m = false) :
    extract? k (.map m) = some (ofMapping k m) := by
  cases hextract : extract? k (.map m) with
  | none =>
    rcases (extract?_eq_none_iff rfl).mp hextract with hkey | hhidden | hlong
    · exact (h (Kind.namedTarget?_eq_wildcard.mpr (.inl ⟨htargeted, hkey⟩))).elim
    · exact (h (Kind.namedTarget?_eq_wildcard.mpr (.inr hhidden))).elim
    · rw [hshort] at hlong
      cases hlong
  | some a => rw [eq_ofMapping_of_extract? hextract]

/-- Where labels imply that labels are updated, the field is on; elsewhere a field that is
    not given is off. -/
theorem labels_of_implied (h : Kind.updateDiscussion.ImpliesLabels m) :
    (ofMapping .updateDiscussion m).setting? "labels" = some (.flag true) := by
  have hset := setting?_ofMapping Kind.labels_option.1 m
  rw [OptionSpec.setting?, Kind.raw?_prepared_of_implied rfl h] at hset
  exact hset

theorem labels_of_not_implied (h : ¬ Kind.updateDiscussion.ImpliesLabels m)
    (hlabels : m.get? "labels" = none) :
    (ofMapping .updateDiscussion m).setting? "labels" = some (.flag false) := by
  have hset := setting?_ofMapping Kind.labels_option.1 m
  have hkey : m.get? (Kind.presenceOption "labels").key = none := by
    rw [Kind.labels_option.2, hlabels]
  rw [Kind.prepared_of_not_implied h, OptionSpec.setting?_of_absent hkey hlabels] at hset
  exact hset

/-- Dropped labels make a difference to the field of the labels, and to no other one. -/
theorem exists_of_dropsLabels (h : k.Respells m n) (hm : Assoc.Distinct Data.keyForm m)
    (hones : k.SpellsOnce m) (hdrops : k.DropsLabels m n) :
    ∃ a b, extract? k (.map m) = some a ∧ extract? k (.map n) = some b
      ∧ a.setting? "labels" = some (.flag true) ∧ b.setting? "labels" = some (.flag false)
      ∧ ∀ field : Text, field ≠ "labels" → AgreeAt field a b := by
  obtain ⟨himplied, hnone, hnamed, hshort⟩ := hdrops
  obtain rfl := himplied.1
  have himplied' : ¬ Kind.updateDiscussion.ImpliesLabels n := by
    rw [h.impliesLabels_iff hm]
    exact fun hboth => hboth.2 hnone
  have hlabels : n.get? "labels" = none := by
    rw [h.get?_eq Kind.oneSpelling_labels]
    exact himplied.2.2
  have hnamed' : Kind.updateDiscussion.namedTarget? n ≠ some wildcardRepo := by
    rwa [h.namedTarget?_eq hm hones]
  have hshort' : Kind.updateDiscussion.isOverlong n = false := by
    rwa [h.isOverlong_eq hm hones]
  refine ⟨_, _, extract?_of_named rfl hnamed hshort, extract?_of_named rfl hnamed' hshort',
    labels_of_implied himplied, labels_of_not_implied himplied' hlabels, ?_⟩
  intro field hfield
  exact agreeAt_respelled h hm hones fun heq => (hfield heq).elim

end Action

/-! ### Blocks -/

namespace Block

variable {es : Mapping} {k : Kind}

theorem actionOf?_of_mem {a : Action} (h : a ∈ (ofMapping es).actions) :
    actionOf? es a.kind = some a := by
  obtain ⟨l, -, hl⟩ := List.mem_filterMap.mp h
  rwa [kind_of_actionOf? hl]

theorem get?_ofMapping (es : Mapping) (k : Kind) :
    (ofMapping es).get? k.name = actionOf? es k := by
  rw [get?]
  cases hfind : (ofMapping es).actions.find? fun a => a.kind.name == k.name with
  | some a =>
    have hname : (a.kind.name == k.name) = true :=
      List.find?_some (p := fun a : Action => a.kind.name == k.name) hfind
    -- names tell kinds apart
    have hkind : a.kind = k := Kind.name_injective (beq_iff_eq.mp hname)
    rw [← hkind, actionOf?_of_mem (List.mem_of_find?_eq_some hfind)]
  | none =>
    cases haction : actionOf? es k with
    | none => rfl
    | some a =>
      have hmem : a ∈ (ofMapping es).actions :=
        List.mem_filterMap.mpr ⟨k, k.mem_all, haction⟩
      have hname := List.find?_eq_none.mp hfind a hmem
      rw [kind_of_actionOf? haction, beq_self_eq_true] at hname
      exact (hname rfl).elim

def Extraction.action? (x : Extraction) (k : Kind) : Option Action :=
  x.block.bind fun b => b.get? k.name

section Reading

variable {m m' es es' options options' : Mapping} {d : Data}

theorem action?_extract (hm : m.value "safe-outputs" = .map es) (k : Kind) :
    (extract m).action? k = actionOf? es k := by
  rw [Extraction.action?, extract, hm]
  exact get?_ofMapping es k

theorem action?_of_get? (hm : m.value "safe-outputs" = .map es)
    (hk : es.get? k.name = some d) : (extract m).action? k = Action.extract? k d := by
  rw [action?_extract hm, actionOf?, hk, Option.bind_some]

theorem unread_of_hidesTarget (hm : m.value "safe-outputs" = .map es)
    (hk : es.get? k.name = some (.map options)) (hm' : m'.value "safe-outputs" = .map es')
    (hk' : es'.get? k.name = some (.map options')) (hhides : k.HidesTarget options options') :
    k ∈ (extract m).rejected ∧ k ∉ (extract m').rejected ∧ (extract m').action? k = none := by
  obtain ⟨hwildcard, hhidden⟩ := hhides
  rw [mem_rejected_extract hm hk, mem_rejected_extract hm' hk', action?_of_get? hm' hk',
    Action.namesWildcard_map, Action.namesWildcard_map]
  exact ⟨hwildcard, hhidden.key_ne, (Action.extract?_eq_none_iff rfl).mpr (.inr (.inl hhidden))⟩

end Reading

/-- What is read when the options of a kind are respelled, beside what was read before. -/
structure Rereads (k : Kind) (options options' : Mapping) (x x' : Extraction) : Prop where
  /-- Nothing changes, unless the wildcard is hidden or implied labels are dropped. -/
  same : x' = x ↔ ¬ k.HidesTarget options options' ∧ ¬ k.DropsLabels options options'
  /-- A kind whose wildcard is hidden is no longer rejected, and has no action either. -/
  hidden : k.HidesTarget options options' →
    k ∈ x.rejected ∧ k ∉ x'.rejected ∧ x'.action? k = none
  /-- Where implied labels are dropped, labels are no longer updated, and that is all. -/
  dropped : k.DropsLabels options options' →
    ∃ a a', x.action? k = some a ∧ x'.action? k = some a'
      ∧ a.setting? "labels" = some (.flag true) ∧ a'.setting? "labels" = some (.flag false)
      ∧ ∀ field : Text, field ≠ "labels" → Action.AgreeAt field a a'
  others : ∀ l, l ≠ k → x'.action? l = x.action? l ∧ (l ∈ x'.rejected ↔ l ∈ x.rejected)

theorem rereads_extract {m m' es options options' : Mapping} {k : Kind}
    (hm : m.value "safe-outputs" = .map es)
    (hm' : m'.value "safe-outputs" = .map (es.insert k.name (.map options')))
    (hk : es.get? k.name = some (.map options))
    (hdistinct : Assoc.Distinct Data.keyForm options) (hones : k.SpellsOnce options)
    (h : k.Respells options options') :
    Rereads k options options' (extract m) (extract m') := by
  have hk' : (es.insert k.name (.map options')).get? k.name = some (.map options') :=
    es.get?_insert_self k.name _
  have haction : (extract m).action? k = Action.extract? k (.map options) :=
    action?_of_get? hm hk
  have haction' : (extract m').action? k = Action.extract? k (.map options') :=
    action?_of_get? hm' hk'
  have hhidden := unread_of_hidesTarget hm hk hm' hk'
  have hdropped := Action.exists_of_dropsLabels h hdistinct hones
  rw [← haction, ← haction'] at hdropped
  refine ⟨⟨?_, ?_⟩, hhidden, hdropped, ?_⟩
  · intro hsame
    rw [hsame] at hhidden hdropped
    constructor
    · intro hhides
      exact (hhidden hhides).2.1 (hhidden hhides).1
    · intro hdrops
      obtain ⟨a, a', ha, ha', hon, hoff, -⟩ := hdropped hdrops
      obtain rfl := Option.some.inj (ha.symm.trans ha')
      rw [hon] at hoff
      cases hoff
  · rintro ⟨hhides, hdrops⟩
    have halike : ReadsAlike es (es.insert k.name (.map options')) :=
      readsAlike_insert hk (Action.extract?_respelled h hdistinct hones hhides hdrops)
        (h.namesWildcard_eq hdistinct hones hhides)
    exact (halike.extract_eq hm hm').symm
  · intro l hl
    rw [action?_extract hm, action?_extract hm', actionOf?_insert_of_ne hl,
      mem_rejected_iff hm, mem_rejected_iff hm', isRejected_insert_of_ne hl]
    exact ⟨rfl, Iff.rfl⟩

/-- The keys of a block are the same whatever its kinds are given. -/
theorem isOverlong_insert_name {m m' es : Mapping} {k : Kind} {d d' : Data}
    (hm : m.value "safe-outputs" = .map es)
    (hm' : m'.value "safe-outputs" = .map (es.insert k.name d'))
    (hk : es.get? k.name = some d) : isOverlong m' = isOverlong m := by
  have henv : ("env" : Text) ≠ k.name := fun h =>
    name_notMem_sharedKeys k (h ▸ by decide)
  have hkeys := Assoc.any_insert_of_get? Data.keyForm (w := d') hk fun key => !key.isShowable
  rw [isOverlong_of_value hm, isOverlong_of_value hm', hasLongKey, hasLongKey,
    Mapping.value_insert_of_ne henv]
  exact congrArg (· || _) hkeys

/-- **Both spellings mean the same**, but for a wildcard that is hidden and for implied
    labels that are dropped.  Neither block is read, or both are. -/
theorem extract_respelled {m m' es options options' : Mapping} {k : Kind}
    (hm : m.value "safe-outputs" = .map es)
    (hm' : m'.value "safe-outputs" = .map (es.insert k.name (.map options')))
    (hk : es.get? k.name = some (.map options))
    (hdistinct : Assoc.Distinct Data.keyForm options) (hones : k.SpellsOnce options)
    (h : k.Respells options options') :
    if isOverlong m then
      (read m).outcome = .error .overlong ∧ (read m').outcome = .error .overlong
    else ∃ x x', (read m).outcome = .ok x ∧ (read m').outcome = .ok x'
      ∧ Rereads k options options' x x' := by
  rw [read_outcome, read_outcome, isOverlong_insert_name hm hm' hk]
  split
  · rename_i hlong
    rw [hlong]
    exact ⟨rfl, rfl⟩
  · rename_i hshort
    rw [Bool.not_eq_true] at hshort
    rw [hshort]
    exact ⟨_, _, rfl, rfl, rereads_extract hm hm' hk hdistinct hones h⟩

def updating (options : Mapping) : Mapping :=
  [(.text "safe-outputs", .map [(.text "update-discussion", .map options)])]

def labelsAndTarget : Mapping :=
  [(.text "target-repo", .text "o/r"), (.text "allowed-labels", .list [.text "bug"]),
   (.text "github-token", .text "t"), (.text "max", .int 2)]

def labelsAndFieldTarget : Mapping :=
  [(.text "target_repo", .text "o/r"), (.text "allowed-labels", .list [.text "bug"]),
   (.text "github_token", .text "t"), (.text "max", .int 2)]

theorem extract_respelled_target :
    Assoc.Distinct Data.keyForm labelsAndTarget
      ∧ Kind.updateDiscussion.SpellsOnce labelsAndTarget
      ∧ Kind.updateDiscussion.Respells labelsAndTarget labelsAndFieldTarget
      ∧ ∃ x, (read (updating labelsAndTarget)).outcome = .ok x
        ∧ (read (updating labelsAndFieldTarget)).outcome = .ok x := by
  have hdistinct : Assoc.Distinct Data.keyForm labelsAndTarget := by
    simp [Assoc.Distinct, labelsAndTarget]
  have hones : Kind.updateDiscussion.SpellsOnce labelsAndTarget := by
    unfold Kind.SpellsOnce
    decide +kernel
  have hkey : Kind.tokenOption.key = "github-token" := by decide +kernel
  have hrespells : Kind.updateDiscussion.Respells labelsAndTarget labelsAndFieldTarget := by
    rw [labelsAndTarget, ← Kind.key_targetRepoOption, ← hkey]
    refine .rename (Kind.targetRepoOption_mem rfl) _ (.keep _ _ (.rename ?_ _ (.keep _ _ .nil)))
    decide +kernel
  have hshort : ¬ isOverlong (updating labelsAndTarget) = true := by decide +kernel
  have hblock : (updating labelsAndTarget).value "safe-outputs"
      = .map [(.text "update-discussion", .map labelsAndTarget)] := rfl
  have hrespelled : (updating labelsAndFieldTarget).value "safe-outputs"
      = .map (Mapping.insert [(.text "update-discussion", .map labelsAndTarget)]
          Kind.updateDiscussion.name (.map labelsAndFieldTarget)) := rfl
  have hreads := extract_respelled hblock hrespelled rfl hdistinct hones hrespells
  rw [if_neg hshort] at hreads
  obtain ⟨x, x', hx, hx', hrereads⟩ := hreads
  have hsame : x' = x := by
    refine hrereads.same.mpr ⟨?_, ?_⟩
    · rintro ⟨hwildcard, -⟩
      revert hwildcard
      decide +kernel
    · rintro ⟨-, hnone, -⟩
      revert hnone
      decide +kernel
  exact ⟨hdistinct, hones, hrespells, x, hx, hsame ▸ hx'⟩

/-- Labels that may be set, under the name of the field: labels are not updated, as they
    would be with the same labels under the key. -/
theorem extract_fieldLabels :
    let byKey : Mapping := [(.text "allowed-labels", .list [.text "bug"])]
    let byField : Mapping := [(.text "allowed_labels", .list [.text "bug"])]
    Assoc.Distinct Data.keyForm byKey ∧ Kind.updateDiscussion.SpellsOnce byKey
      ∧ Kind.updateDiscussion.Respells byKey byField
      ∧ ((extract (updating byKey)).action? .updateDiscussion).bind (·.setting? "labels")
        = some (.flag true)
      ∧ ((extract (updating byField)).action? .updateDiscussion).bind (·.setting? "labels")
        = some (.flag false)
      ∧ extract (updating byField) ≠ extract (updating byKey) := by
  intro byKey byField
  have hkey : ((extract (updating byKey)).action? .updateDiscussion).bind (·.setting? "labels")
      = some (.flag true) := by
    decide +kernel
  have hfield :
      ((extract (updating byField)).action? .updateDiscussion).bind (·.setting? "labels")
        = some (.flag false) := by
    decide +kernel
  refine ⟨by simp [Assoc.Distinct, byKey], ?_, ?_, hkey, hfield, ?_⟩
  · unfold Kind.SpellsOnce
    decide +kernel
  · have hrespells := Kind.Respells.rename (k := .updateDiscussion) Kind.allowedLabels_option.1
      (.list [.text "bug"]) .nil
    rwa [Kind.allowedLabels_option.2] at hrespells
  · intro hsame
    rw [hsame, hkey] at hfield
    cases hfield

end Block

end WorkflowPolicy.SafeOutput
