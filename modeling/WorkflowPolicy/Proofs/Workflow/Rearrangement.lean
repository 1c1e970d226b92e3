/-
  WorkflowPolicy/Proofs/Workflow/Rearrangement.lean
  =================================================
  **Order and stray keys do not matter.**  An author may rearrange a frontmatter, its
  block of safe outputs and the options of an action: entries change places, and entries
  under keys that nothing looks at come and go (`Workflow.Edit`).  However many such edits
  there are, compilation ends alike (`compile_rearranged`).

  What is read from a mapping is read by key, so one edit leaves every look-up as it was;
  the actions, the block and the workflow follow from their look-ups.  One entry is looked
  at for kinds that have no such option: the wildcard as a target is refused for every
  kind, so it is not stray anywhere (`compile_strayWildcard`).
-/
import Mathlib.Logic.Relation
import WorkflowPolicy.Proofs.SafeOutput.OwnField
import WorkflowPolicy.Proofs.Workflow.Parts

namespace WorkflowPolicy

/-! ### Rearranged mappings -/

namespace Mapping

/-- One edit of a mapping: its entries change places, or a stray entry is added
    somewhere or dropped. -/
inductive Rearranges (stray : Data → Data → Prop) : Mapping → Mapping → Prop where
  | reorder {m n : Mapping} (hm : Assoc.Distinct Data.keyForm m) (hp : m.Perm n) :
      Rearranges stray m n
  | add {key v : Data} (m n : Mapping) (hm : Assoc.Distinct Data.keyForm (m ++ (key, v) :: n))
      (hv : stray key v) : Rearranges stray (m ++ n) (m ++ (key, v) :: n)
  | drop {key v : Data} (m n : Mapping) (hm : Assoc.Distinct Data.keyForm (m ++ (key, v) :: n))
      (hv : stray key v) : Rearranges stray (m ++ (key, v) :: n) (m ++ n)

variable {stray : Data → Data → Prop} {m n : Mapping} {key v w : Data}

/-- An entry hides no other one, so it only shows as itself. -/
theorem get?_middle_eq_some_iff {other : Data}
    (hm : Assoc.Distinct Data.keyForm (m ++ (key, v) :: n))
    (hne : ¬ (Data.keyForm key = Data.keyForm other ∧ v = w)) :
    get? (m ++ (key, v) :: n) other = some w ↔ get? (m ++ n) other = some w := by
  by_cases hkey : Data.keyForm key = Data.keyForm other
  · have hfound : get? (m ++ (key, v) :: n) other = some v := by
      rw [get?, ← Assoc.get?_congr Data.keyForm hkey]
      exact Assoc.get?_of_mem Data.keyForm hm (by simp)
    -- keys are distinct, so no other entry is found under this one
    have hnone : get? (m ++ n) other = none := by
      have hnodup : Assoc.Distinct Data.keyForm ((key, v) :: (m ++ n)) :=
        hm.perm Data.keyForm List.perm_middle
      rw [get?, ← Assoc.get?_congr Data.keyForm hkey]
      exact ((Assoc.distinct_cons Data.keyForm).mp hnodup).1
    rw [hfound, hnone]
    constructor
    · intro hv
      exact (hne ⟨hkey, Option.some.inj hv⟩).elim
    · intro hw
      cases hw
  · rw [get?, get?, Assoc.get?_middle Data.keyForm hkey]

namespace Rearranges

/-- Whether a value is found under a key does not change, unless it is a stray one. -/
theorem get?_eq_some_iff (h : m.Rearranges stray n)
    (hw : ∀ other, Data.keyForm other = Data.keyForm key → ¬ stray other w) :
    m.get? key = some w ↔ n.get? key = some w := by
  cases h with
  | reorder hm hp =>
    have hget : m.get? key = n.get? key := Assoc.get?_perm Data.keyForm hm hp key
    rw [hget]
  | add m n hm hv =>
    symm
    apply get?_middle_eq_some_iff hm
    rintro ⟨hkey, rfl⟩
    exact hw _ hkey hv
  | drop m n hm hv =>
    apply get?_middle_eq_some_iff hm
    rintro ⟨hkey, rfl⟩
    exact hw _ hkey hv

theorem get?_eq (h : m.Rearranges stray n)
    (hkey : ∀ other w, Data.keyForm other = Data.keyForm key → ¬ stray other w) :
    m.get? key = n.get? key := by
  apply Option.ext
  intro w
  exact h.get?_eq_some_iff fun other hother => hkey other w hother

end Rearranges

end Mapping

/-! ### Options of an action -/

namespace SafeOutput

namespace Kind

/-- The keys that options are looked up under. -/
def knownKeys (k : Kind) : List Text :=
  commonFields ++ k.options.map OptionSpec.key ++ k.options.map OptionSpec.field

def Ignores (k : Kind) (key : Data) : Prop := ∀ name ∈ k.knownKeys, key ≠ .text name

instance (k : Kind) (key : Data) : Decidable (k.Ignores key) :=
  inferInstanceAs (Decidable (∀ name ∈ k.knownKeys, key ≠ .text name))

/-- An entry that no kind looks at here: the wildcard as a target is not one. -/
def IsStray (k : Kind) (key v : Data) : Prop :=
  k.Ignores key ∧ ¬ (key = "target-repo" ∧ v = Action.wildcardRepo)

theorem common_mem_knownKeys {k : Kind} {name : Text} (h : name ∈ commonFields) :
    name ∈ k.knownKeys :=
  List.mem_append_left _ (List.mem_append_left _ h)

theorem key_mem_knownKeys {k : Kind} {o : OptionSpec} (h : o ∈ k.options) :
    o.key ∈ k.knownKeys :=
  List.mem_append_left _ (List.mem_append_right _ (List.mem_map.mpr ⟨o, h, rfl⟩))

theorem field_mem_knownKeys {k : Kind} {o : OptionSpec} (h : o ∈ k.options) :
    o.field ∈ k.knownKeys :=
  List.mem_append_right _ (List.mem_map.mpr ⟨o, h, rfl⟩)

theorem get?_prepared_of_known {k : Kind} {m n : Mapping}
    (h : ∀ name ∈ k.knownKeys, m.get? name = n.get? name) {name : Text}
    (hname : name ∈ k.knownKeys) : (k.prepared m).get? name = (k.prepared n).get? name := by
  refine get?_prepared_congr (h name hname) ?_
  rintro rfl -
  exact h "allowed-labels" (by decide +kernel)

theorem isOverlong_congr {k : Kind} {m n : Mapping}
    (h : ∀ name ∈ k.knownKeys, m.get? name = n.get? name) : k.isOverlong m = k.isOverlong n := by
  have hmax := h "max" (common_mem_knownKeys (by decide))
  have hoption : ∀ o ∈ k.options, o.isOverlong m = o.isOverlong n := by
    intro o ho
    rw [OptionSpec.isOverlong, OptionSpec.isOverlong, OptionSpec.raw?, OptionSpec.raw?,
      h _ (key_mem_knownKeys ho), h _ (field_mem_knownKeys ho)]
  rw [isOverlong, isOverlong, Mapping.value_congr hmax, any_options_congr hoption]

end Kind

namespace Action

variable {k : Kind} {m n : Mapping}

theorem ofMapping_congr (h : ∀ name ∈ k.knownKeys, m.get? name = n.get? name) :
    ofMapping k m = ofMapping k n := by
  have hprepared : ∀ name ∈ k.knownKeys, (k.prepared m).get? name = (k.prepared n).get? name :=
    fun _ hname => Kind.get?_prepared_of_known h hname
  have hmax := hprepared "max" (Kind.common_mem_knownKeys (by decide))
  have hstaged := hprepared "staged" (Kind.common_mem_knownKeys (by decide))
  have hsettings : k.options.map (·.setting? (k.prepared m))
      = k.options.map (·.setting? (k.prepared n)) := by
    apply List.map_congr_left
    intro o ho
    exact OptionSpec.setting?_congr (hprepared _ (Kind.key_mem_knownKeys ho))
      (hprepared _ (Kind.field_mem_knownKeys ho))
  simp only [ofMapping, Mapping.value, hmax, hstaged, hsettings]

theorem extract?_congr (h : ∀ name ∈ k.knownKeys, m.get? name = n.get? name)
    (hwildcard : namesWildcard (.map m) = namesWildcard (.map n)) :
    extract? k (.map m) = extract? k (.map n) := by
  have hlong : k.isOverlong (k.prepared m) = k.isOverlong (k.prepared n) := by
    rw [k.isOverlong_prepared, k.isOverlong_prepared, Kind.isOverlong_congr h]
  have hoptions : ofOptions k m = ofOptions k n := by
    rw [ofOptions, ofOptions, ofMapping_congr h, hlong]
  rw [extract?, extract?, optionsOf, optionsOf, Option.bind_some, Option.bind_some, hwildcard,
    hoptions]

/-- One edit of the options changes neither the action nor whether they are rejected. -/
theorem extract?_rearranged (h : m.Rearranges k.IsStray n) :
    extract? k (.map m) = extract? k (.map n)
      ∧ namesWildcard (.map m) = namesWildcard (.map n) := by
  have hknown : ∀ name ∈ k.knownKeys, m.get? name = n.get? name := by
    intro name hname
    apply h.get?_eq
    rintro other w hother ⟨hignored, -⟩
    exact hignored name hname (Data.keyForm_eq_text.mp hother)
  have hwildcard : namesWildcard (.map m) = namesWildcard (.map n) := by
    rw [Bool.eq_iff_iff, namesWildcard_map, namesWildcard_map]
    apply h.get?_eq_some_iff
    rintro other hother ⟨-, hstray⟩
    exact hstray ⟨Data.keyForm_eq_text.mp hother, rfl⟩
  exact ⟨extract?_congr hknown hwildcard, hwildcard⟩

end Action

/-! ### Blocks -/

namespace Block

/-- The keys of the settings that all actions share. -/
def sharedKeys : List Text := ["staged", "env", "github-token", "messages"]

def IsRead (key : Data) : Prop :=
  ∃ name ∈ sharedKeys ++ Kind.all.map Kind.name, key = .text name

/-- A key that nothing looks at, and that can be shown where unknown keys are. -/
def IsStray (key : Data) : Prop := ¬ IsRead key ∧ key.isShowable = true

/-- Two blocks in which every kind has the same action and the same verdict. -/
structure ReadsAlike (m n : Mapping) : Prop where
  action : ∀ k, actionOf? m k = actionOf? n k
  rejected : ∀ k, isRejected m k = isRejected n k
  shared : ∀ key ∈ sharedKeys, m.get? key = n.get? key
  showable : (m.any fun e => !e.1.isShowable) = n.any fun e => !e.1.isShowable

variable {m n : Mapping}

theorem readsAlike_of_get? (h : ∀ k : Kind, m.get? k.name = n.get? k.name)
    (hshared : ∀ key ∈ sharedKeys, m.get? key = n.get? key)
    (hshowable : (m.any fun e => !e.1.isShowable) = n.any fun e => !e.1.isShowable) :
    ReadsAlike m n := by
  refine ⟨?_, ?_, hshared, hshowable⟩
  · intro k
    rw [actionOf?, actionOf?, h]
  · intro k
    rw [isRejected, isRejected, h]

theorem ReadsAlike.ofMapping_eq (h : ReadsAlike m n) : ofMapping m = ofMapping n := by
  have hactions : Kind.all.filterMap (actionOf? m) = Kind.all.filterMap (actionOf? n) := by
    rw [funext h.action]
  have hstaged := h.shared "staged" (by decide)
  have henv := h.shared "env" (by decide)
  have htoken := h.shared "github-token" (by decide)
  have hmessages := h.shared "messages" (by decide)
  simp only [ofMapping, Mapping.value, hactions, hstaged, henv, htoken, hmessages]

theorem ReadsAlike.extract_eq {m' n' : Mapping} (h : ReadsAlike m n)
    (hm : m'.value "safe-outputs" = .map m) (hn : n'.value "safe-outputs" = .map n) :
    extract m' = extract n' := by
  have hrejected : rejectedKinds m = rejectedKinds n := by
    rw [rejectedKinds, rejectedKinds, funext h.rejected]
  simp only [extract, hm, hn, h.ofMapping_eq, hrejected]

theorem ReadsAlike.hasLongKey_eq (h : ReadsAlike m n) : hasLongKey m = hasLongKey n := by
  rw [hasLongKey, hasLongKey, h.showable, Mapping.value_congr (h.shared "env" (by decide))]

theorem ReadsAlike.isOverlong_eq {m' n' : Mapping} (h : ReadsAlike m n)
    (hm : m'.value "safe-outputs" = .map m) (hn : n'.value "safe-outputs" = .map n) :
    isOverlong m' = isOverlong n' := by
  rw [isOverlong_of_value hm, isOverlong_of_value hn, h.hasLongKey_eq]

/-- No key that cannot be shown comes or goes. -/
theorem showable_rearranged (h : m.Rearranges (fun key _ => IsStray key) n) :
    (m.any fun e => !e.1.isShowable) = n.any fun e => !e.1.isShowable := by
  cases h with
  | reorder hm hp => exact hp.any_eq
  | add m n hm hv => simp [hv.2]
  | drop m n hm hv => simp [hv.2]

theorem readsAlike_rearranged (h : m.Rearranges (fun key _ => IsStray key) n) :
    ReadsAlike m n := by
  have hget : ∀ name ∈ sharedKeys ++ Kind.all.map Kind.name, m.get? name = n.get? name := by
    intro name hname
    apply h.get?_eq
    intro other w hother hstray
    exact hstray.1 ⟨name, hname, Data.keyForm_eq_text.mp hother⟩
  refine readsAlike_of_get? ?_ ?_ (showable_rearranged h)
  · intro k
    exact hget k.name (List.mem_append_right _ (List.mem_map.mpr ⟨k, k.mem_all, rfl⟩))
  · intro key hkey
    exact hget key (List.mem_append_left _ hkey)

theorem name_notMem_sharedKeys (k : Kind) : k.name ∉ sharedKeys := by
  cases k <;> decide +kernel

theorem get?_insert_name_of_ne {k l : Kind} (h : l ≠ k) (m : Mapping) (d : Data) :
    (m.insert k.name d).get? l.name = m.get? l.name :=
  Mapping.get?_insert_of_ne (fun hname => h (Kind.name_injective hname)) m d

/-- The other kinds do not see what stands under the name of this one. -/
theorem actionOf?_insert_of_ne {k l : Kind} (h : l ≠ k) (m : Mapping) (d : Data) :
    actionOf? (m.insert k.name d) l = actionOf? m l := by
  rw [actionOf?, actionOf?, get?_insert_name_of_ne h]

theorem isRejected_insert_of_ne {k l : Kind} (h : l ≠ k) (m : Mapping) (d : Data) :
    isRejected (m.insert k.name d) l = isRejected m l := by
  rw [isRejected, isRejected, get?_insert_name_of_ne h]

/-- Another value for a kind that means the same. -/
theorem readsAlike_insert {k : Kind} {d d' : Data} (hm : m.get? k.name = some d)
    (haction : Action.extract? k d = Action.extract? k d')
    (hwildcard : Action.namesWildcard d = Action.namesWildcard d') :
    ReadsAlike m (m.insert k.name d') := by
  have hself : (m.insert k.name d').get? k.name = some d' := m.get?_insert_self k.name _
  constructor
  · intro l
    by_cases hl : l = k
    · subst hl
      rw [actionOf?, actionOf?, hm, hself, Option.bind_some, Option.bind_some, haction]
    · rw [actionOf?_insert_of_ne hl]
  · intro l
    by_cases hl : l = k
    · subst hl
      rw [isRejected, isRejected, hm, hself, Option.any_some, Option.any_some, hwildcard]
    · rw [isRejected_insert_of_ne hl]
  · intro key hkey
    refine (Mapping.get?_insert_of_ne ?_ m d').symm
    rintro rfl
    exact name_notMem_sharedKeys k hkey
  · exact (Assoc.any_insert_of_get? Data.keyForm hm fun key => !key.isShowable).symm

theorem readsAlike_options {k : Kind} {options options' : Mapping}
    (hm : m.get? k.name = some (.map options)) (h : options.Rearranges k.IsStray options') :
    ReadsAlike m (m.insert k.name (.map options')) := by
  obtain ⟨haction, hwildcard⟩ := Action.extract?_rearranged h
  exact readsAlike_insert hm haction hwildcard

end Block

end SafeOutput

/-! ### Frontmatters -/

namespace Workflow

open SafeOutput (Block Kind)

/-- The keys that a frontmatter is looked up under, besides that of the safe outputs. -/
def readKeys : List Data :=
  [.text "on", .bool true, .text "name", .text "engine", .text "strict", .text "permissions",
   .text "network", .text "sandbox", .text "tools", .text "mcp-servers", .text "concurrency"]

def IsRead (key : Data) : Prop :=
  ∃ k ∈ Data.text "safe-outputs" :: readKeys, Data.keyForm key = Data.keyForm k

/-- Two frontmatters that every look-up finds alike, with blocks that are read alike. -/
structure ReadsAlike (m n : Mapping) : Prop where
  entries : ∀ key ∈ readKeys, m.get? key = n.get? key
  safeOutputs : Block.extract m = Block.extract n
  longKeys : Block.isOverlong m = Block.isOverlong n

/-- One edit of a frontmatter: of its own entries, of the entries of its block of safe
    outputs, or of the options of one action. -/
inductive Edit (stray : Kind → Data → Data → Prop) : Mapping → Mapping → Prop where
  | entries {m n : Mapping} (h : m.Rearranges (fun key _ => ¬ IsRead key) n) : Edit stray m n
  | block {m block block' : Mapping} (hm : m.get? "safe-outputs" = some (.map block))
      (h : block.Rearranges (fun key _ => Block.IsStray key) block') :
      Edit stray m (m.insert "safe-outputs" (.map block'))
  | options {m block options options' : Mapping} {k : Kind}
      (hm : m.get? "safe-outputs" = some (.map block))
      (hblock : block.get? k.name = some (.map options))
      (h : options.Rearranges (stray k) options') :
      Edit stray m (m.insert "safe-outputs" (.map (block.insert k.name (.map options'))))

variable {m n : Mapping}

theorem readsAlike_entries (h : m.Rearranges (fun key _ => ¬ IsRead key) n) : ReadsAlike m n := by
  have hget : ∀ key ∈ Data.text "safe-outputs" :: readKeys, m.get? key = n.get? key := by
    intro key hkey
    apply h.get?_eq
    intro other w hother hstray
    exact hstray ⟨key, hkey, hother⟩
  have hsafe : m.value "safe-outputs" = n.value "safe-outputs" :=
    Mapping.value_congr (hget _ List.mem_cons_self)
  constructor
  · intro key hkey
    exact hget key (List.mem_cons_of_mem _ hkey)
  · rw [Block.extract, Block.extract, hsafe]
  · rw [Block.isOverlong, Block.isOverlong, hsafe]

/-- Another block that is read alike makes no difference. -/
theorem readsAlike_block {block block' : Mapping} (hm : m.get? "safe-outputs" = some (.map block))
    (h : Block.ReadsAlike block block') :
    ReadsAlike m (m.insert "safe-outputs" (.map block')) := by
  have hold : m.value "safe-outputs" = .map block := by
    rw [Mapping.value, hm, Option.getD_some]
  have hnew : (m.insert "safe-outputs" (.map block')).value "safe-outputs" = .map block' := by
    rw [Mapping.value, Mapping.get?_insert_self, Option.getD_some]
  constructor
  · intro key hkey
    have hne : Data.keyForm (.text "safe-outputs") ≠ Data.keyForm key := by
      revert key
      decide
    exact (Assoc.get?_insert_of_ne Data.keyForm hne _ m).symm
  · exact h.extract_eq hold hnew
  · exact h.isOverlong_eq hold hnew

theorem readsAlike_of_edit (h : Edit Kind.IsStray m n) : ReadsAlike m n := by
  cases h with
  | entries h => exact readsAlike_entries h
  | block hm h => exact readsAlike_block hm (Block.readsAlike_rearranged h)
  | options hm hblock h => exact readsAlike_block hm (Block.readsAlike_options hblock h)

/-! ### Reading and checking -/

namespace ReadsAlike

variable (h : ReadsAlike m n)

include h

theorem sameParts : SameParts m n := by
  refine ⟨?_, h.safeOutputs, h.longKeys⟩
  intro key hkey
  have hread : ∀ key ∈ partKeys, Data.text key ∈ readKeys := by decide
  exact h.entries key (hread key hkey)

theorem reading_eq (settings : Settings) (asked : Option Bool) :
    reading settings asked m = reading settings asked n := by
  have htrigger : triggerOf m = triggerOf n :=
    triggerOf_congr (h.entries "on" (by decide)) (h.entries (.bool true) (by decide))
  rw [h.sameParts.reading_eq, htrigger]
  rfl

end ReadsAlike

end Workflow

/-! ### Two runs -/

namespace Policy

open Workflow (Edit)
open SafeOutput (Kind)

theorem compile_edit {m n : Mapping} (h : Edit Kind.IsStray m n) (settings : Settings)
    (asked : Option Bool) :
    (compile settings asked n).outcome = (compile settings asked m).outcome := by
  have hreads := Workflow.readsAlike_of_edit h
  rw [compile_guarded, compile_guarded, failure?, failure?, derivesOverlong, derivesOverlong,
    hreads.sameParts.failure?_eq, hreads.reading_eq]

/-- **Order and stray keys do not matter.**  However a frontmatter is rearranged,
    compilation ends with the same error or the same policy. -/
theorem compile_rearranged {m n : Mapping} (h : Relation.ReflTransGen (Edit Kind.IsStray) m n)
    (settings : Settings) (asked : Option Bool) :
    (compile settings asked n).outcome = (compile settings asked m).outcome := by
  induction h with
  | refl => rfl
  | tail _ hedit ih => rw [compile_edit hedit, ih]

/-- A push that may leave a note, at most two of them. -/
def noteFrontmatter : Mapping :=
  [(.text "on", .text "push"),
   (.text "safe-outputs", .map [(.text "noop", .map [(.text "max", .int 2)])])]

/-- The note has got a colour, and the trigger has moved to the end. -/
def colouredFrontmatter : Mapping :=
  [(.text "safe-outputs",
    .map [(.text "noop", .map [(.text "max", .int 2), (.text "colour", .text "red")])]),
   (.text "on", .text "push")]

theorem compile_rearranged_coloured :
    Relation.ReflTransGen (Edit Kind.IsStray) noteFrontmatter colouredFrontmatter
      ∧ (∃ p, (compile {} none noteFrontmatter).outcome = .ok p)
      ∧ (compile {} none colouredFrontmatter).outcome
        = (compile {} none noteFrontmatter).outcome := by
  have hstray : Kind.noop.IsStray "colour" "red" := by
    constructor
    · decide +kernel
    · decide
  have hblock : Mapping.get? [(.text "noop", .map [(.text "max", .int 2)])] Kind.noop.name
      = some (.map [(.text "max", .int 2)]) := by
    decide +kernel
  have hcolour : Edit Kind.IsStray noteFrontmatter colouredFrontmatter.reverse := by
    refine .options rfl hblock (.add [(.text "max", .int 2)] [] ?_ hstray)
    simp [Assoc.Distinct]
  have hmove : Edit Kind.IsStray colouredFrontmatter.reverse colouredFrontmatter := by
    refine .entries (.reorder ?_ (List.reverse_perm _))
    simp [Assoc.Distinct, colouredFrontmatter]
  have hsteps : Relation.ReflTransGen (Edit Kind.IsStray) noteFrontmatter colouredFrontmatter :=
    .tail (.single hcolour) hmove
  have hnone : failure? {} none noteFrontmatter = none := by decide +kernel
  exact ⟨hsteps, ⟨_, compile_eq_ok_iff.mpr ⟨hnone, rfl⟩⟩, compile_rearranged hsteps {} none⟩

/-- Among the options of a kind without a target the wildcard is looked at all the same:
    it is refused although the kind has no such option. -/
theorem compile_strayWildcard :
    ¬ ∀ (settings : Settings) (asked : Option Bool) (m n : Mapping),
      Relation.ReflTransGen (Edit fun k key _ => k.Ignores key) m n →
        (compile settings asked n).outcome = (compile settings asked m).outcome := by
  intro h
  have hignored : Kind.noop.Ignores "target-repo" := by decide +kernel
  have hblock : Mapping.get? [(.text "noop", .map [])] Kind.noop.name = some (.map []) := by
    decide +kernel
  have hadded : Mapping.Rearranges (fun key _ => Kind.noop.Ignores key) []
      [(.text "target-repo", .text "*")] := by
    refine .add [] [] ?_ hignored
    simp [Assoc.Distinct]
  have hedit : Edit (fun k key _ => k.Ignores key)
      [(.text "safe-outputs", .map [(.text "noop", .map [])])]
      [(.text "safe-outputs",
        .map [(.text "noop", .map [(.text "target-repo", .text "*")])])] :=
    .options rfl hblock hadded
  have houtcome := h {} none _ _ (.single hedit)
  have hplain : failure? {} none
      [(.text "safe-outputs", .map [(.text "noop", .map [])])] = none := by
    decide +kernel
  have hwildcard : failure? {} none
      [(.text "safe-outputs", .map [(.text "noop", .map [(.text "target-repo", .text "*")])])]
        = some (.policy (.safeOutput "noop" SafeOutput.Block.rejectionReason)) := by
    decide +kernel
  rw [compile_guarded, compile_guarded, hplain, hwildcard] at houtcome
  cases houtcome

end Policy

end WorkflowPolicy
