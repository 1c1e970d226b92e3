/-
  WorkflowPolicy/Proofs/Json/Writable.lean
  ========================================
  **Data that has JSON.**  A value can be written when everything in it can be written
  and every key is a word or a text (`writable_list`, `writable_map`).  Keys of settings
  are texts, so settings can be written as soon as their values can
  (`writable_ofFields`), and so can rows that leave out what says nothing
  (`writable_present`).
-/
import WorkflowPolicy.Json.Writer
import WorkflowPolicy.Proofs.Rows

namespace WorkflowPolicy.Json

def Writable (d : Data) : Prop := fault? d = none

/-! ### Collections -/

theorem itemsFault?_eq_none_iff {xs : List Data} :
    itemsFault? xs = none ↔ ∀ x ∈ xs, Writable x := by
  induction xs with
  | nil => simp [itemsFault?]
  | cons x xs ih => rw [itemsFault?, Option.or_eq_none_iff, ih, List.forall_mem_cons, Writable]

theorem entriesFault?_eq_none_iff {es : List (Data × Data)} :
    entriesFault? es = none ↔ ∀ e ∈ es, keyFault? e.1 = none ∧ Writable e.2 := by
  induction es with
  | nil => simp [entriesFault?]
  | cons e es ih =>
    rw [entriesFault?, Option.or_eq_none_iff, Option.or_eq_none_iff, ih, List.forall_mem_cons,
      Writable, and_assoc]

theorem writable_list {xs : List Data} : Writable (.list xs) ↔ ∀ x ∈ xs, Writable x :=
  itemsFault?_eq_none_iff

theorem writable_map {es : List (Data × Data)} :
    Writable (.map es) ↔ ∀ e ∈ es, keyFault? e.1 = none ∧ Writable e.2 :=
  entriesFault?_eq_none_iff

theorem writable_ofFields {m : Fields Data} : Writable (.ofFields m) ↔ ∀ e ∈ m, Writable e.2 := by
  rw [Data.ofFields, writable_map, List.forall_mem_map]
  simp only [keyFault?, true_and]

theorem tooLong?_eq_none_iff {d : Data} : tooLong? d = none ↔ d.isShowable = true := by
  rw [tooLong?]
  split <;> simp_all

@[simp] theorem writable_bool (b : Bool) : Writable (.bool b) := rfl

@[simp] theorem writable_int {n : Int} : Writable (.int n) ↔ Decimal.isWritable n = true :=
  tooLong?_eq_none_iff

@[simp] theorem writable_text (s : Text) : Writable (.text s) := rfl

@[simp] theorem writable_ofTexts (l : List Text) : Writable (.ofTexts l) := by
  rw [Data.ofTexts, writable_list, List.forall_mem_map]
  intro s _
  exact writable_text s

@[simp] theorem writable_ofTextFields (m : Fields Text) : Writable (.ofTextFields m) := by
  rw [Fields.ofTextFields_eq, writable_ofFields, List.forall_mem_map]
  intro e _
  exact writable_text e.2

/-! ### Rows -/

/-- A row that says nothing, or whose value can be written. -/
def WritableRow (o : Option Data) : Prop := ∀ d ∈ o, Writable d

theorem writable_present {rows : Fields (Option Data)} (h : ∀ r ∈ rows, WritableRow r.2) :
    Writable (.ofFields (Fields.present rows)) := by
  rw [writable_ofFields]
  intro e he
  obtain ⟨r, hr, hpresent⟩ := List.mem_filterMap.mp he
  obtain ⟨d, hd, rfl⟩ := Option.map_eq_some_iff.mp hpresent
  exact h r hr d hd

@[simp] theorem writableRow_none : WritableRow none := by
  intro d hd
  cases hd

@[simp] theorem writableRow_some {d : Data} : WritableRow (some d) ↔ Writable d := by
  simp [WritableRow]

@[simp] theorem writableRow_map {α : Type} {o : Option α} {f : α → Data} :
    WritableRow (o.map f) ↔ ∀ a ∈ o, Writable (f a) := by
  simp [WritableRow]

theorem writableRow_ite {c : Prop} [Decidable c] {d : Data} (h : Writable d) :
    WritableRow (if c then none else some d) := by
  split
  · exact writableRow_none
  · exact writableRow_some.mpr h

@[simp] theorem writableRow_text (s : Text) : WritableRow (Fields.textRow s) :=
  writableRow_ite (writable_text s)

@[simp] theorem writableRow_texts (l : List Text) : WritableRow (Fields.textsRow l) :=
  writableRow_ite (writable_ofTexts l)

@[simp] theorem writableRow_textMap (m : Fields Text) : WritableRow (Fields.textMapRow m) :=
  writableRow_ite (writable_ofTextFields m)

@[simp] theorem writableRow_flag (b : Bool) : WritableRow (Fields.flagRow b) := by
  cases b <;> simp [Fields.flagRow, WritableRow]

end WorkflowPolicy.Json
