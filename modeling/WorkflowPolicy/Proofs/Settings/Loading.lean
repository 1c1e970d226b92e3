/-
  WorkflowPolicy/Proofs/Settings/Loading.lean
  ===========================================
  **How loading settings can end.**  A file that can be read gives settings, or a fault
  with a text that says what is wrong with it.  A fault without a text is no report on the
  settings: it escapes from whoever loads them.

  There are two ways to it (`Settings.load_escapes_iff`).  The reader of the file may fail
  in a way of its own, for which nobody has a text.  And an override may be blocked on its
  way by a value that is no mapping, which nothing checks before the overrides are applied
  (`Settings.load_throughNumber`).  This holds whatever the readers of YAML and JSON are.
-/
import WorkflowPolicy.Proofs.Files
import WorkflowPolicy.Proofs.Settings.DocumentOverride
import WorkflowPolicy.Settings.Storage

namespace WorkflowPolicy.Settings

variable {readers : Readers} {fs : Files} {path : Path} {format : Format} {text : String}

/-! ### From a file to a document -/

theorem documentAt_of_read {file : String} (hlocate : locate fs file = .ok path)
    (hformat : Format.ofKind? path.kind = some format) (hread : fs.read path = .ok text) :
    documentAt readers fs file = (format.read readers text).bind mappingOf := by
  have hcontains : fs.contains path = true := Files.contains_of_read hread
  rw [documentAt, hlocate]
  simp only [bind, Except.bind, hcontains, Bool.not_true, Bool.false_eq_true, if_false, hformat,
    hread]

/-- A file that can be read is not created anew. -/
theorem load_of_read {file : Option String} (hlocate : locate fs (file.getD defaultFile) = .ok path)
    (hread : fs.read path = .ok text) (overrides : Mapping) (create : Bool) :
    load readers fs file overrides create
      = (fs, loadFile readers fs (file.getD defaultFile) overrides) := by
  have hcreate : createMissing fs (file.getD defaultFile) = .ok fs := by
    rw [createMissing, hlocate]
    simp only [bind, Except.bind, Files.contains_of_read hread, if_true]
    rfl
  rw [load]
  cases create with
  | false => rfl
  | true =>
    simp only [if_true]
    rw [hcreate]

theorem isMapping_of_mappingOf {doc doc' : Document} (h : mappingOf doc = .ok doc') :
    doc'.isMapping doc'.root = true := by
  unfold mappingOf at h
  split at h
  · rename_i heq
    cases h
    rw [Document.isMapping, heq]
    rfl
  · cases h
    rfl
  · cases h

/-! ### Faults without a text -/

/-- The faults of a YAML text that are not reported: a number without a digit or with too
    many places, what a tag or an escape promises and is not there, and nodes that nest too
    deeply. -/
theorem message?_yaml {f : Yaml.Fault} : (Fault.yaml f).message? = none
    ↔ f ∈ [.emptyNumber, .tooLarge, .notBoolean, .notTime, .tooDeep]
      ∨ ∃ code, 0x80000000 ≤ code ∧ f = .notCharacter code := by
  cases f with
  | notCharacter code =>
    by_cases h : code < 0x80000000
    · simp [Fault.message?, Yaml.Fault.message?, h]
    · simp [Fault.message?, Yaml.Fault.message?, Nat.le_of_not_lt h]
  | _ => simp [Fault.message?, Yaml.Fault.message?]

/-- A text of JSON that cannot be read is reported, unless it nests too deeply. -/
theorem message?_json {f : Json.ReadFault} : (Fault.json f).message? = none ↔ f = .tooDeep := by
  cases f <;> simp [Fault.message?, Json.ReadFault.message?]

/-- How loading settings from a text ends in a fault without a text of its own. -/
inductive Escapes (readers : Readers) (format : Format) (text : String) (overrides : Mapping) :
    Prop
  | yaml {f : Yaml.Fault} (hformat : format = .yaml) (hread : readers.yaml text = .error f)
      (hfault : (Fault.yaml f).message? = none)
  | json {f : Json.ReadFault} (hformat : format = .json) (hblank : Text.strip text ≠ "")
      (hread : readers.json text = .error f) (hfault : (Fault.json f).message? = none)
  | blocked {doc : Document} (hdocument : (format.read readers text).bind mappingOf = .ok doc)
      (hblocked : Blocked doc overrides)

/-- A fault of reading is the one of the reader of the format. -/
theorem read_error_iff {f : Fault} : format.read readers text = .error f
    ↔ (∃ g, f = .yaml g ∧ format = .yaml ∧ readers.yaml text = .error g)
      ∨ ∃ g, f = .json g ∧ format = .json ∧ Text.strip text ≠ ""
        ∧ readers.json text = .error g := by
  cases format with
  | yaml =>
    rw [Format.read]
    cases readers.yaml text <;> simp [eq_comm]
  | json =>
    rw [Format.read]
    by_cases hblank : Text.strip text = ""
    · simp [hblank]
    · rw [if_neg hblank]
      cases readers.json text <;> simp [hblank, eq_comm]

theorem read_error_escapes_iff {f : Fault} (h : format.read readers text = .error f)
    (overrides : Mapping) : f.message? = none ↔ Escapes readers format text overrides := by
  have hread := read_error_iff.mp h
  constructor
  · intro hfault
    rcases hread with ⟨g, rfl, hformat, hg⟩ | ⟨g, rfl, hformat, hblank, hg⟩
    · exact .yaml hformat hg hfault
    · exact .json hformat hblank hg hfault
  · -- a text has one fault, and none if there is a document
    intro hescapes
    cases hescapes with
    | yaml hformat hg hfault =>
      have heq := h.symm.trans (read_error_iff.mpr (.inl ⟨_, rfl, hformat, hg⟩))
      rwa [Except.error.inj heq]
    | json hformat hblank hg hfault =>
      have heq := h.symm.trans (read_error_iff.mpr (.inr ⟨_, rfl, hformat, hblank, hg⟩))
      rwa [Except.error.inj heq]
    | blocked hdoc =>
      rw [h] at hdoc
      cases hdoc

theorem mappingOf_error {doc : Document} {f : Fault} (h : mappingOf doc = .error f) :
    f.message? ≠ none := by
  unfold mappingOf at h
  split at h
  · cases h
  · cases h
  · cases h
    nofun

theorem ofEntries_error {m : Mapping} {f : Fault} (h : ofEntries m = .error f) :
    f.message? ≠ none := by
  rw [ofEntries] at h
  split at h
  · split at h
    · cases h
    · cases h
      nofun
  · cases h
    nofun

/-- A text that was read leaves the overrides to be blocked. -/
theorem escapes_iff_of_read_ok {doc : Document} (h : format.read readers text = .ok doc)
    (overrides : Mapping) : Escapes readers format text overrides
      ↔ ∃ doc', mappingOf doc = .ok doc' ∧ Blocked doc' overrides := by
  have hread : ∀ f, format.read readers text ≠ .error f := by simp [h]
  constructor
  · intro hescapes
    cases hescapes with
    | yaml hformat hf =>
      exact (hread _ (read_error_iff.mpr (.inl ⟨_, rfl, hformat, hf⟩))).elim
    | json hformat hblank hf =>
      exact (hread _ (read_error_iff.mpr (.inr ⟨_, rfl, hformat, hblank, hf⟩))).elim
    | blocked hdoc hblocked =>
      rw [h] at hdoc
      exact ⟨_, hdoc, hblocked⟩
  · rintro ⟨doc', hdoc, hblocked⟩
    have hbound : (format.read readers text).bind mappingOf = .ok doc' := by
      rw [h]
      exact hdoc
    exact .blocked hbound hblocked

/-- **Bad settings are reported, unless** the reader of the file fails in a way of its own,
    or an override is blocked by what it meets on its way. -/
theorem load_escapes_iff (readers : Readers) {file : Option String}
    (hlocate : locate fs (file.getD defaultFile) = .ok path)
    (hformat : Format.ofKind? path.kind = some format) (hread : fs.read path = .ok text)
    (overrides : Mapping) (create : Bool) :
    (∃ f, (load readers fs file overrides create).2 = .error f ∧ f.message? = none)
      ↔ Escapes readers format text overrides := by
  rw [load_of_read hlocate hread]
  have hdocument : documentAt readers fs (file.getD defaultFile)
      = (format.read readers text).bind mappingOf :=
    documentAt_of_read hlocate hformat hread
  show (∃ f, loadFile readers fs (file.getD defaultFile) overrides = .error f
    ∧ f.message? = none) ↔ _
  rw [loadFile, hdocument]
  cases hdata : format.read readers text with
  | error f =>
    refine Iff.trans ⟨?_, fun hf => ⟨f, rfl, hf⟩⟩ (read_error_escapes_iff hdata overrides)
    rintro ⟨g, hg, hmessage⟩
    cases hg
    exact hmessage
  | ok doc =>
    rw [escapes_iff_of_read_ok hdata]
    show (∃ f, ((mappingOf doc).bind fun doc => _) = .error f ∧ _) ↔ _
    cases hmapping : mappingOf doc with
    | error f =>
      refine iff_of_false ?_ ?_
      · rintro ⟨g, hg, hmessage⟩
        cases hg
        exact mappingOf_error hmapping hmessage
      · rintro ⟨doc', hdoc', -⟩
        cases hdoc'
    | ok doc' =>
      have hoverridden := exists_overridden_error_iff (isMapping_of_mappingOf hmapping) overrides
      have hblocked : (∃ doc'', (Except.ok doc' : Except Fault Document) = .ok doc''
          ∧ Blocked doc'' overrides) ↔ Blocked doc' overrides := by simp
      rw [hblocked, ← hoverridden, Except.bind]
      cases hm : overridden doc' overrides with
      | error f => exact iff_of_true ⟨_, rfl, rfl⟩ ⟨f, rfl⟩
      | ok m =>
        refine iff_of_false ?_ nofun
        rintro ⟨f, hf, hmessage⟩
        exact ofEntries_error hf hmessage

def fileOfSettings (text : String) : Files :=
  { here := ⟨"/", ["repo"]⟩
    home := ⟨"/", ["home"]⟩
    files := [(⟨"/", ["repo", "c.yml"]⟩, ⟨text, 420⟩)] }

/-- A mapping that stands under two keys. -/
def sharedText : String := "base: &b {n: 1}\nlogging: *b\n"

/-- An override under one of the keys, and one that it blocks under the other. -/
def crossedOverrides : Mapping :=
  [(.text "base.k.x", .int 1), (.text "logging.k.x.y", .int 2)]

theorem load_escapes_shared :
    locate (fileOfSettings sharedText) "c.yml" = .ok ⟨"", ["c.yml"]⟩
      ∧ Format.ofKind? (Path.kind ⟨"", ["c.yml"]⟩) = some .yaml
      ∧ (fileOfSettings sharedText).read ⟨"", ["c.yml"]⟩ = .ok sharedText
      ∧ (load (.own 100) (fileOfSettings sharedText) (some "c.yml") crossedOverrides false).2
        = .error (.override .notSettable)
      ∧ Escapes (.own 100) .yaml sharedText crossedOverrides := by
  have hlocate : locate (fileOfSettings sharedText) "c.yml" = .ok ⟨"", ["c.yml"]⟩ := by
    decide +kernel
  have hformat : Format.ofKind? (Path.kind ⟨"", ["c.yml"]⟩) = some .yaml := by decide +kernel
  have hread : (fileOfSettings sharedText).read ⟨"", ["c.yml"]⟩ = .ok sharedText := by
    decide +kernel
  have hload : (load (.own 100) (fileOfSettings sharedText) (some "c.yml") crossedOverrides
      false).2 = .error (.override .notSettable) := by
    decide +kernel
  refine ⟨hlocate, hformat, hread, hload, ?_⟩
  have hlocate' : locate (fileOfSettings sharedText) ((some "c.yml").getD defaultFile)
      = .ok ⟨"", ["c.yml"]⟩ := hlocate
  exact (load_escapes_iff (.own 100) hlocate' hformat hread crossedOverrides false).mp
    ⟨_, hload, rfl⟩

/-- A number where settings nest lets an override fail that nothing reports. -/
theorem load_throughNumber :
    locate (fileOfSettings "logging: 5\n") "c.yml" = .ok ⟨"", ["c.yml"]⟩
      ∧ Format.ofKind? (Path.kind ⟨"", ["c.yml"]⟩) = some .yaml
      ∧ (fileOfSettings "logging: 5\n").read ⟨"", ["c.yml"]⟩ = .ok "logging: 5\n"
      ∧ ∃ f, (load (.own 100) (fileOfSettings "logging: 5\n") (some "c.yml")
          [(.text "logging.level", .text "debug")] false).2 = .error f ∧ f.message? = none := by
  refine ⟨by decide +kernel, by decide +kernel, by decide +kernel, .override .notSettable, ?_, rfl⟩
  decide +kernel

end WorkflowPolicy.Settings
