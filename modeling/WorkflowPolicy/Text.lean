/-
  WorkflowPolicy/Text.lean
  ========================
  **Texts.**  A text is a row of code points.  Almost all of them are characters, but
  the escapes of YAML and JSON can also name the halves of a surrogate pair, which are
  no characters.  A text holds such a half as it is, also where two of them stand side
  by side.

  Files and outputs are encoded, so they hold characters only.  They are strings; the
  texts of a workflow are read from them and written to them.
-/

namespace WorkflowPolicy

/-! ### Code points -/

inductive CodePoint where
  | char (c : Char)
  /-- A half of a surrogate pair, by its place among all halves. -/
  | surrogate (n : Fin 0x800)
deriving DecidableEq, Repr, Inhabited

namespace CodePoint

instance : Coe Char CodePoint := ⟨char⟩

/-- The number of the first half of a surrogate pair. -/
def firstSurrogate : Nat := 0xD800

def toNat : CodePoint → Nat
  | char c => c.toNat
  | surrogate n => firstSurrogate + n

def ofNat (n : Nat) : CodePoint :=
  if h : firstSurrogate ≤ n ∧ n - firstSurrogate < 0x800 then
    surrogate ⟨n - firstSurrogate, h.2⟩
  else char (Char.ofNat n)

instance : LT CodePoint := ⟨fun c d => c.toNat < d.toNat⟩

instance (c d : CodePoint) : Decidable (c < d) := inferInstanceAs (Decidable (c.toNat < d.toNat))

def char? : CodePoint → Option Char
  | char c => some c
  | surrogate _ => none

@[simp] theorem toNat_char (c : Char) : (char c).toNat = c.toNat := rfl

/-- No character has the number of a half. -/
theorem ne_surrogate_of_char (c : Char) :
    ¬ (firstSurrogate ≤ c.toNat ∧ c.toNat - firstSurrogate < 0x800) := by
  have hvalid := c.valid
  have hnat : c.val.toNat = c.toNat := rfl
  simp only [UInt32.isValidChar, Nat.isValidChar, hnat] at hvalid
  simp only [firstSurrogate]
  omega

@[simp] theorem ofNat_toNat (c : CodePoint) : ofNat c.toNat = c := by
  cases c with
  | char c => rw [toNat_char, ofNat, dif_neg (ne_surrogate_of_char c), Char.ofNat_toNat]
  | surrogate n =>
    have hplace : firstSurrogate + n.val - firstSurrogate = n.val := Nat.add_sub_cancel_left _ _
    have hhalf : firstSurrogate ≤ firstSurrogate + n.val
        ∧ firstSurrogate + n.val - firstSurrogate < 0x800 :=
      ⟨Nat.le_add_right _ _, hplace.symm ▸ n.isLt⟩
    rw [toNat, ofNat, dif_pos hhalf]
    exact congrArg surrogate (Fin.ext hplace)

end CodePoint

/-! ### Texts -/

structure Text where
  ofList ::
  toList : List CodePoint
deriving DecidableEq, Repr, Inhabited

namespace Text

def ofChars (cs : List Char) : Text := ⟨cs.map .char⟩

def ofString (s : String) : Text := ofChars s.toList

instance : Coe String Text := ⟨ofString⟩

@[match_pattern] def empty : Text := ⟨[]⟩

instance : Append Text := ⟨fun s t => ⟨s.toList ++ t.toList⟩⟩

instance : LT Text := ⟨fun s t => s.toList < t.toList⟩

instance (s t : Text) : Decidable (s < t) := inferInstanceAs (Decidable (s.toList < t.toList))

def isEmpty (s : Text) : Bool := s.toList.isEmpty

def isPrefixOf (s t : Text) : Bool := s.toList.isPrefixOf t.toList

def isSuffixOf (s t : Text) : Bool := s.toList.isSuffixOf t.toList

def intercalate (separator : Text) (ts : List Text) : Text :=
  ⟨separator.toList.intercalate (ts.map toList)⟩

/-- A text with one code point in the place of another. -/
def replaced (old new : CodePoint) (s : Text) : Text :=
  ⟨s.toList.map fun c => if c = old then new else c⟩

/-- The characters of a text that has nothing else. -/
def chars? (s : Text) : Option (List Char) := s.toList.mapM CodePoint.char?

/-- A text that has characters only, as it is encoded. -/
def string? (s : Text) : Option String := s.chars?.map String.ofList

@[ext] theorem ext {s t : Text} (h : s.toList = t.toList) : s = t := by
  cases s
  cases t
  exact congrArg ofList h

theorem toList_inj {s t : Text} : s.toList = t.toList ↔ s = t := ⟨ext, congrArg toList⟩

@[simp] theorem toList_append (s t : Text) : (s ++ t).toList = s.toList ++ t.toList := rfl

@[simp] theorem toList_ofChars (cs : List Char) : (ofChars cs).toList = cs.map .char := rfl

@[simp] theorem toList_ofString (s : String) : (ofString s).toList = s.toList.map .char := rfl

@[simp] theorem ofList_toList (s : Text) : ofList s.toList = s := rfl

@[simp] theorem intercalate_singleton (separator s : Text) : intercalate separator [s] = s := by
  ext1
  simp [intercalate]

theorem intercalate_cons_cons (separator s t : Text) (ts : List Text) :
    intercalate separator (s :: t :: ts) = s ++ separator ++ intercalate separator (t :: ts) := by
  ext1
  simp [intercalate, List.intercalate_cons_cons]

theorem append_assoc (s t u : Text) : s ++ t ++ u = s ++ (t ++ u) := by
  rw [← toList_inj]
  simp

@[simp] theorem isEmpty_iff {s : Text} : s.isEmpty = true ↔ s = "" := by
  rw [isEmpty, List.isEmpty_iff, ← toList_inj]
  rfl

theorem append_right_inj (s : Text) {t t' : Text} : s ++ t = s ++ t' ↔ t = t' := by
  rw [← toList_inj, toList_append, toList_append, List.append_cancel_left_eq, toList_inj]

theorem ofChars_inj {cs ds : List Char} : ofChars cs = ofChars ds ↔ cs = ds := by
  rw [← toList_inj, toList_ofChars, toList_ofChars,
    List.map_inj_right fun _ _ => CodePoint.char.inj]

@[simp] theorem ofString_inj {s t : String} : ofString s = ofString t ↔ s = t :=
  ofChars_inj.trans String.toList_inj

theorem chars?_eq_some {s : Text} {cs : List Char} : s.chars? = some cs ↔ s = ofChars cs := by
  rw [← toList_inj, toList_ofChars, chars?]
  generalize s.toList = ps
  induction ps generalizing cs with
  | nil => cases cs <;> simp
  | cons p ps ih =>
    cases p with
    | surrogate n => cases cs <;> simp [List.mapM_cons, CodePoint.char?]
    | char c =>
      rw [List.mapM_cons]
      simp only [CodePoint.char?, Option.bind_eq_bind, Option.bind_some,
        Option.bind_eq_some_iff, ih]
      cases cs with
      | nil => simp
      | cons d ds =>
        constructor
        · rintro ⟨a, rfl, heq⟩
          cases heq
          rfl
        · intro h
          cases h
          exact ⟨ds, rfl, rfl⟩

@[simp] theorem chars?_ofChars (cs : List Char) : (ofChars cs).chars? = some cs :=
  chars?_eq_some.mpr rfl

@[simp] theorem chars?_ofString (s : String) : (ofString s).chars? = some s.toList :=
  chars?_ofChars s.toList

theorem string?_eq_some {s : Text} {t : String} : s.string? = some t ↔ s = ofString t := by
  rw [string?, Option.map_eq_some_iff]
  constructor
  · rintro ⟨cs, hcs, rfl⟩
    rw [chars?_eq_some.mp hcs, ofString, String.toList_ofList]
  · rintro rfl
    exact ⟨t.toList, chars?_ofString t, String.ofList_toList⟩

@[simp] theorem string?_ofString (s : String) : (ofString s).string? = some s :=
  string?_eq_some.mpr rfl

end Text

end WorkflowPolicy
