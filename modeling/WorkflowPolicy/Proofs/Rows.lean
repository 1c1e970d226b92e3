/-
  WorkflowPolicy/Proofs/Rows.lean
  ===============================
  **Mappings that leave out what says nothing.**  Settings are written as rows: a key,
  and a value if there is something to say.  The mapping that is written holds the rows
  with a value and nothing else, so a reader finds under a key the value of its row
  (`get?_present`), and null where the row has none.

  Readers take null for the default, so what was left out is read as it was
  (`text_row` and its siblings).
-/
import WorkflowPolicy.Firewall
import WorkflowPolicy.Proofs.Assoc

namespace WorkflowPolicy

namespace Fields

variable {α β : Type}

/-- No key occurs twice. -/
abbrev Distinct (m : Fields α) : Prop := Assoc.Distinct id m

/-! ### Rows -/

/-- The mapping of the rows that have a value. -/
def present (rows : Fields (Option α)) : Fields α := rows.filterMap fun r => r.2.map (r.1, ·)

/-- Written rows stand one after the other.  A single row is left as it is, so that this
    rewrites a whole table at once. -/
theorem present_cons_cons (r r' : Text × Option α) (rows : Fields (Option α)) :
    present (r :: r' :: rows) = present [r] ++ present (r' :: rows) :=
  List.filterMap_append (l := [r])

@[simp] theorem present_nil : present ([] : Fields (Option α)) = [] := rfl

@[simp] theorem present_none (k : Text) (rows : Fields (Option α)) :
    present ((k, none) :: rows) = present rows := rfl

@[simp] theorem present_some (k : Text) (a : α) (rows : Fields (Option α)) :
    present ((k, some a) :: rows) = (k, a) :: present rows := rfl

theorem key_of_mem_present {rows : Fields (Option α)} {e : Text × α} (h : e ∈ present rows) :
    e.1 ∈ rows.map (·.1) := by
  obtain ⟨r, hr, he⟩ := List.mem_filterMap.mp h
  obtain ⟨a, -, rfl⟩ := Option.map_eq_some_iff.mp he
  exact List.mem_map.mpr ⟨r, hr, rfl⟩

theorem map_present (f : α → β) (rows : Fields (Option α)) :
    (present rows).map (fun e => (e.1, f e.2)) = present (rows.map fun r => (r.1, r.2.map f)) := by
  induction rows with
  | nil => rfl
  | cons r rows ih =>
    obtain ⟨k, o⟩ := r
    cases o <;> simp [ih]

theorem get?_present {rows : Fields (Option α)} (h : rows.Distinct) (k : Text) :
    (present rows).get? k = (rows.get? k).join := by
  induction rows with
  | nil => rfl
  | cons r rows ih =>
    obtain ⟨l, o⟩ := r
    obtain ⟨hnone, hrest⟩ := (Assoc.distinct_cons id).mp h
    by_cases hl : l = k
    · subst hl
      cases o with
      | some a => simp [present, Fields.get?, Assoc.get?]
      | none =>
        -- no other row has this key, so leaving the row out leaves nothing under it
        have hout : present ((l, none) :: rows) = present rows := rfl
        rw [hout, ih hrest, Fields.get?, hnone]
        simp [Fields.get?, Assoc.get?]
    · have hin : Fields.get? ((l, o) :: rows) k = Fields.get? rows k := by
        simp [Fields.get?, Assoc.get?, hl]
      rw [hin, ← ih hrest]
      cases o <;> simp [present, Fields.get?, Assoc.get?, hl]

theorem value_toMapping (m : Fields Data) (k : Text) :
    m.toMapping.value (.text k) = (m.get? k).getD .null := by
  rw [Mapping.value, get?_toMapping]

theorem strangeKeys_toMapping (c : Fields Data) : c.toMapping.strangeKeys = [] := by
  apply List.filter_eq_nil_iff.mpr
  intro k hk
  obtain ⟨f, hf, rfl⟩ := List.mem_map.mp hk
  obtain ⟨e, -, rfl⟩ := List.mem_map.mp hf
  simp

theorem ofTextFields_eq (m : Fields Text) :
    Data.ofTextFields m = .ofFields (m.map fun e => (e.1, .text e.2)) := by
  simp [Data.ofTextFields, Data.ofFields, Function.comp_def]

/-! ### Rows of settings

One kind of row for each kind of value: a text, a list and a mapping say something when
they are not empty, and a flag when it is set. -/

def textRow (s : Text) : Option Data := if s = "" then none else some (.text s)

def textsRow (l : List Text) : Option Data := if l = [] then none else some (.ofTexts l)

def textMapRow (m : Fields Text) : Option Data := if m = [] then none else some (.ofTextFields m)

def flagRow (b : Bool) : Option Data := if b then some (.bool true) else none

section Entries

variable (k : Text)

theorem entry_text (s : Text) :
    Firewall.entry (s ≠ "") k (.text s) = present [(k, textRow s)] := by
  by_cases h : s = "" <;> simp [Firewall.entry, present, textRow, h]

theorem entry_texts (l : List Text) :
    Firewall.entry (l ≠ []) k (.ofTexts l) = present [(k, textsRow l)] := by
  by_cases h : l = [] <;> simp [Firewall.entry, present, textsRow, h]

theorem entry_textMap (m : Fields Text) :
    Firewall.entry (m ≠ []) k (.ofTextFields m) = present [(k, textMapRow m)] := by
  by_cases h : m = [] <;> simp [Firewall.entry, present, textMapRow, h]

theorem entry_flag (b : Bool) : Firewall.entry b k (.bool true) = present [(k, flagRow b)] := by
  cases b <;> rfl

end Entries

@[simp] theorem text_row (s : Text) : (((textRow s).getD .null).text?).getD "" = s := by
  by_cases h : s = "" <;> simp [textRow, h, Data.text?]

@[simp] theorem texts_row (l : List Text) : (((textsRow l).getD .null).texts?).getD [] = l := by
  by_cases h : l = []
  · subst h
    rfl
  · simp [textsRow, h]

theorem textMap_row {m : Fields Text} (h : m.Distinct) :
    (((textMapRow m).getD .null).textMap?).getD [] = m := by
  by_cases hm : m = []
  · subst hm
    rfl
  · simp [textMapRow, hm, Data.textMap?_ofTextFields h]

theorem hasLongKey_ofTextFields (m : Fields Text) : (Data.ofTextFields m).hasLongKey = false := by
  rw [Data.ofTextFields, Data.hasLongKey, List.any_map]
  exact List.any_eq_false.mpr fun _ _ => by simp [Data.isShowable]

/-- An environment that was read has texts for keys. -/
@[simp] theorem hasLongKey_row (m : Fields Text) :
    ((textMapRow m).getD .null).hasLongKey = false := by
  by_cases hm : m = []
  · subst hm
    rfl
  · simpa [textMapRow, hm] using hasLongKey_ofTextFields m

/-- No name occurs twice in an environment, however it was written. -/
theorem distinct_textMap (d : Data) : ((d.textMap?).getD []).Distinct := by
  cases d with
  | map es => exact Assoc.distinct_ofList id _
  | _ => exact List.nodup_nil

@[simp] theorem flag_row (b : Bool) : (((flagRow b).getD .null).flag?).getD false = b := by
  cases b <;> rfl

end Fields

end WorkflowPolicy
