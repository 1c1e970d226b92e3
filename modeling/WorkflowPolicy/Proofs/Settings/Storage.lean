/-
  WorkflowPolicy/Proofs/Settings/Storage.lean
  ===========================================
  **Saved settings, loaded again.**  Settings are saved as YAML under any name, but the
  suffix of a file says how it is read.  So settings come back from a file whose suffix
  stands for YAML, while a file whose suffix stands for JSON cannot be read any more, and
  the same holds of default settings that are written where a file is missing
  (`Settings.load_saved`).

  The keys of settings are single words and their values nest two levels deep, so their
  YAML text is read as the entries that it was written for (`Settings.read_fileText`).  How
  the file ends its lines makes no difference to it (`Yaml.document_unifyLineEnds`).
-/
import Mathlib.Data.List.TakeWhile
import WorkflowPolicy.Proofs.Files
import WorkflowPolicy.Proofs.Settings
import WorkflowPolicy.Proofs.Settings.Loading
import WorkflowPolicy.Proofs.Yaml.RoundTrip

namespace WorkflowPolicy

/-! ### YAML texts in files -/

namespace Yaml

theorem unifyBreaks_cons {c : Char} (h : c ≠ '\r') (cs : List Char) :
    unifyBreaks (c :: cs) = (if c == '\x85' then '\n' else c) :: unifyBreaks cs := by
  rw [unifyBreaks]
  · simp [h]
  · intro rest hc
    exact absurd hc h

theorem unifyBreaks_unifyLineEnds (cs : List Char) :
    unifyBreaks (Text.unifyLineEnds cs) = unifyBreaks cs := by
  induction cs using Text.unifyLineEnds.induct with
  | case1 rest ih =>
    rw [Text.unifyLineEnds, unifyBreaks_cons (by decide), ih, unifyBreaks]
    rfl
  | case2 c rest h ih =>
    rw [Text.unifyLineEnds.eq_2 _ _ h, unifyBreaks.eq_2 _ _ h]
    by_cases hc : c = '\r'
    · subst hc
      rw [unifyBreaks_cons (by decide), ih]
      rfl
    · rw [if_neg (by simpa using hc), unifyBreaks_cons hc, ih]
      simp [hc]
  | case3 => rfl

theorem all_unifyLineEnds (cs : List Char) :
    (Text.unifyLineEnds cs).all isAllowed = cs.all isAllowed := by
  induction cs using Text.unifyLineEnds.induct with
  | case1 rest ih => simp [Text.unifyLineEnds, ih, isAllowed]
  | case2 c rest h ih =>
    rw [Text.unifyLineEnds.eq_2 _ _ h, List.all_cons, List.all_cons, ih]
    by_cases hc : c = '\r'
    · simp [hc, isAllowed]
    · simp [hc]
  | case3 => rfl

/-- YAML has line ends of its own, so it does not matter how they were read. -/
theorem document_unifyLineEnds (deepest : Nat) (s : String) :
    document deepest (String.ofList (Text.unifyLineEnds s.toList)) = document deepest s := by
  rw [document, document, Text.chars?_ofString, Text.chars?_ofString, String.toList_ofList]
  simp only [Option.filter_some, all_unifyLineEnds]
  by_cases hallowed : s.toList.all isAllowed = true
  · simp only [if_pos hallowed, Option.elim_some, bind, Except.bind, unifyBreaks_unifyLineEnds]
  · simp only [if_neg hallowed]

theorem toList_write (e : Data × Data) (es : Mapping) :
    (write (e :: es)).toList
      = stack 0 (entryBlocks 0 ((e.1, .ofData e.2) :: Tree.ofEntries es)) ++ ['\n'] := by
  rw [write, writeTree, String.toList_ofList, Tree.ofData, Tree.ofEntries, block]
  rfl

end Yaml

/-! ### Documents of mappings -/

namespace Document

/-- A table in which mappings stand for mappings alone. -/
def Typed (doc : Document) (table : Array Data) : Prop :=
  ∀ id es, table.getD id .null = .map es → ∃ entries, doc.get? id = some (.map entries)

theorem typed_cut (doc : Document) : doc.Typed (doc.collections.map Collection.cut) := by
  intro id es hes
  rw [Array.getD_eq_getD_getElem?, Array.getElem?_map] at hes
  cases hid : doc.collections[id]? with
  | none =>
    rw [hid] at hes
    cases hes
  | some c =>
    rw [hid] at hes
    cases c <;> cases hes

theorem typed_unfold {doc : Document} {table : Array Data} (h : doc.Typed table)
    (order : List Nat) : doc.Typed (doc.unfold order table) := by
  induction order generalizing table with
  | nil => exact h
  | cons id order ih =>
    apply ih
    cases hid : doc.get? id with
    | none => simpa only [hid] using h
    | some c =>
      simp only [hid]
      intro other es hes
      rw [Array.getD_eq_getD_getElem?, Array.getElem?_setIfInBounds] at hes
      split at hes
      · rename_i hother
        subst hother
        split at hes
        · cases c with
          | map entries => exact ⟨entries, hid⟩
          | _ => cases hes
        · cases hes
      · apply h other es
        rwa [Array.getD_eq_getD_getElem?]

theorem isMapping_of_data {doc : Document} {es : Mapping} (h : doc.data = .map es) :
    doc.isMapping doc.root = true := by
  cases hroot : doc.root with
  | own d =>
    rw [data, hroot] at h
    obtain rfl : d = .map es := h
    rfl
  | shared id =>
    have htyped : ∀ rounds, doc.Typed
        (Nat.repeat (doc.unfold doc.order) rounds (doc.collections.map Collection.cut)) := by
      intro rounds
      induction rounds with
      | zero => exact typed_cut doc
      | succ n ih => exact typed_unfold ih doc.order
    rw [data, hroot] at h
    obtain ⟨entries, hentries⟩ := htyped _ id es h
    rw [isMapping, entries?, hentries]
    rfl

end Document

namespace Settings

variable {fs fs' : Files} {path : Path} {file : String} {format : Format} {s : Settings}
  {deepest : Nat}

/-! ### From a text to settings -/

/-- Without overrides the entries stay as they are. -/
theorem overridden_nil (doc : Document) : overridden doc [] = .ok doc.entries := by
  unfold overridden
  split <;> rfl

theorem mappingOf_of_isMapping {doc : Document} (h : doc.isMapping doc.root = true) :
    mappingOf doc = .ok doc := by
  obtain ⟨entries, hentries⟩ := Option.isSome_iff_exists.mp h
  rw [mappingOf, hentries]

theorem ofEntries_entries (hs : s.IsValid) : ofEntries s.entries = .ok s := by
  have hkeys : s.entries.strangeKeys = [] := by
    rw [entries_eq, Fields.strangeKeys_toMapping]
  rw [ofEntries, hkeys, ofMapping_entries hs]
  rfl

theorem fileText_eq (s : Settings) : ∃ rest, s.fileText.toList = 's' :: rest := by
  obtain ⟨es, hes⟩ : ∃ es, s.entries = (.text "strict", .bool s.strict) :: es :=
    ⟨_, entries_eq s⟩
  have hkey : Yaml.isSimpleKey (.text "strict") = true := by decide +kernel
  have hchars : Yaml.scalarChars ⟨0 + Yaml.levelWidth, 0, true⟩ (.text "strict")
      = "strict".toList := by decide +kernel
  apply List.head?_eq_some_iff.mp
  rw [fileText, hes, Yaml.toList_write, Yaml.entryBlocks, if_pos hkey, hchars]
  cases Yaml.entryBlocks 0 (Yaml.Tree.ofEntries es) <;> rfl

theorem read_json_of_key {text : String} {rest : List Char} (h : text.toList = 's' :: rest) :
    Format.json.read (.own deepest) text = .error (.json .malformed) := by
  have hblank : Text.strip text ≠ "" := by
    intro hstrip
    have hdrop : Text.dropBlanks ((text : Text).toList)
        = .char 's' :: rest.map .char := by
      rw [Text.toList_ofString, h]
      rfl
    have hnil := congrArg Text.toList hstrip
    rw [Text.strip, hdrop] at hnil
    simp only [Text.toList_ofString, String.toList_empty, List.map_nil, List.reverse_eq_nil_iff,
      Text.dropBlanks, List.dropWhile_eq_nil_iff] at hnil
    exact absurd (hnil (.char 's') (by simp)) (by decide)
  have hread : Json.readWithin (2 * deepest) text = .error .malformed := by
    rw [Json.readWithin, h]
    rfl
  have hown : (Readers.own deepest).json text = .error .malformed := hread
  rw [Format.read, if_neg hblank, hown]

/-! ### Texts of settings -/

theorem storable_texts (l : List Text) : Yaml.Storable 1 (.ofTexts l) := by
  refine .list fun x hx => ?_
  obtain ⟨s, -, rfl⟩ := List.mem_map.mp hx
  exact .simple (.text s)

/-- The integers of settings are those of the log. -/
theorem isWritable_logging (h : s.isWritable = true) :
    Decimal.isWritable s.logging.maxSizeMb = true
      ∧ Decimal.isWritable s.logging.backupCount = true := by
  obtain ⟨strict, trialMode, trialRepo, engines, support, version, level, file, maxSize,
    backups⟩ := s
  rw [isWritable, entries_eq] at h
  cases trialRepo <;> cases file <;>
    simp_all [Fields.toMapping, Data.ofFields, LogSettings.toFields, Data.isShowable,
      Data.entriesShowable]

theorem storable_logging {l : LogSettings} (hmaxSize : Decimal.isWritable l.maxSizeMb = true)
    (hbackups : Decimal.isWritable l.backupCount = true) :
    Yaml.Storable 1 (.ofFields l.toFields) := by
  obtain ⟨hlevel, hfile, hsize, hcount⟩ : Yaml.IsWordKey "level" ∧ Yaml.IsWordKey "file"
      ∧ Yaml.IsWordKey "max_size_mb" ∧ Yaml.IsWordKey "backup_count" := by
    decide +kernel
  have htext : ∀ t, Yaml.Storable 0 (.text t) := fun t => .simple (.text t)
  have hsizes : Yaml.Storable 0 (.int l.maxSizeMb) ∧ Yaml.Storable 0 (.int l.backupCount) :=
    ⟨.simple (.int hmaxSize), .simple (.int hbackups)⟩
  obtain ⟨level, file, maxSize, backups⟩ := l
  refine .map ?_ ?_ ?_
  · cases file <;> simp [LogSettings.toFields, hlevel, hfile, hsize, hcount]
  · cases file <;> simp [LogSettings.toFields, Assoc.Distinct]
  · cases file <;> simp [LogSettings.toFields, htext, hsizes]

/-- Settings that can be written are read from their text, whatever their values are. -/
theorem read_fileText (hs : s.isWritable = true) (hdeep : 2 < deepest) :
    Yaml.read deepest s.fileText = .ok (.map s.entries) := by
  have hkeys : ∀ k ∈ (["strict", "trial_mode", "trial_repo", "firewall_engines",
      "firewall_engine_support", "default_firewall_version", "logging"] : List Text),
      Yaml.IsWordKey k := by
    decide +kernel
  obtain ⟨hmaxSize, hbackups⟩ := isWritable_logging hs
  have hlogging := storable_logging hmaxSize hbackups
  simp only [List.forall_mem_cons] at hkeys
  have hflag : ∀ b, Yaml.Storable 1 (.bool b) := fun b => .simple (.bool b)
  have htext : ∀ t, Yaml.Storable 1 (.text t) := fun t => .simple (.text t)
  rw [fileText, entries_eq]
  refine Yaml.read_write (n := 1) (by simp) ?_ ?_ ?_ (by decide) hdeep
  · cases s.trialRepo <;> simp [hkeys]
  · cases s.trialRepo <;> simp [Assoc.Distinct]
  · cases s.trialRepo <;> simp [hflag, htext, storable_texts, hlogging]

/-- What becomes of settings that are read in a format. -/
def Format.reload : Format → Settings → Except Fault Settings
  | .yaml, s => .ok s
  | .json, _ => .error (.json .malformed)

def storedText (s : Settings) : String :=
  String.ofList (Text.unifyLineEnds s.fileText.toList)

theorem loadFile_of_read (hs : s.IsValid) (hw : s.isWritable = true) (hdeep : 2 < deepest)
    (hlocate : locate fs file = .ok path)
    (hformat : Format.ofKind? path.kind = some format)
    (hread : fs.read path = .ok s.storedText) :
    loadFile (.own deepest) fs file [] = format.reload s := by
  rw [loadFile, documentAt_of_read hlocate hformat hread]
  cases format with
  | json =>
    -- a letter opens the file where JSON has a brace or a bracket
    obtain ⟨rest, hrest⟩ := fileText_eq s
    have hstored : s.storedText.toList = 's' :: Text.unifyLineEnds rest := by
      rw [storedText, String.toList_ofList, hrest, Text.unifyLineEnds]
      · rfl
      · intro _ hs
        exact absurd hs (by decide)
    rw [read_json_of_key hstored]
    rfl
  | yaml =>
    -- what YAML reads does not depend on the line ends
    have hyaml := read_fileText hw hdeep
    rw [Yaml.read, ← Yaml.document_unifyLineEnds] at hyaml
    cases hdoc : Yaml.document deepest (String.ofList (Text.unifyLineEnds s.fileText.toList)) with
    | error f =>
      rw [hdoc] at hyaml
      cases hyaml
    | ok doc =>
      rw [hdoc] at hyaml
      have hdata : doc.data = .map s.entries := Except.ok.inj hyaml
      have hentries : doc.entries = s.entries := by
        rw [Document.entries, hdata]
      have hown : (Readers.own deepest).yaml s.storedText = .ok doc := hdoc
      have hread : Format.yaml.read (.own deepest) s.storedText = .ok doc := by
        rw [Format.read, hown]
      simp only [hread, Except.bind, bind, overridden_nil, hentries, ofEntries_entries hs,
        mappingOf_of_isMapping (Document.isMapping_of_data hdata)]
      rfl

/-! ### From settings to a file -/

theorem locate_of_keeps (h : Files.Keeps fs fs') (file : String) :
    locate fs' file = locate fs file := by
  rw [locate, locate, Files.expand, Files.expand, h.home]

theorem names_ne_nil (h : Format.ofKind? path.kind = some format) : path.names ≠ [] := by
  intro hnil
  have hkind : path.kind = "" := by
    rw [Path.kind, Path.suffix, Path.name, hnil]
    rfl
  rw [hkind] at h
  cases h

theorem save_of_format (hlocate : locate fs file = .ok path)
    (hformat : Format.ofKind? path.kind = some format) :
    save fs s (some file) = saveFile fs s file := by
  have hfile : file ≠ "" := by
    rintro rfl
    have hpath : path = {} := (Except.ok.inj hlocate).symm
    rw [hpath] at hformat
    cases hformat
  unfold save
  split
  · rename_i heq
    cases heq
  · rename_i heq
    exact absurd (Option.some.inj heq) hfile
  · rename_i heq
    rw [← Option.some.inj heq]

theorem saveFile_eq_ok (hlocate : locate fs file = .ok path) (h : saveFile fs s file = .ok fs') :
    fs.write path s.fileText ownerOnly = .ok fs' ∧ s.isWritable = true := by
  rw [saveFile, hlocate] at h
  simp only [bind, Except.bind] at h
  split at h
  · rename_i hwrite
    split at h
    · rename_i hs
      exact ⟨Except.ok.inj h ▸ hwrite, hs⟩
    · cases h
  · cases h

/-- What was saved is found and read again. -/
theorem load_saveFile (hhere : fs.here.isRelative = false) (hdeep : 2 < deepest) (hs : s.IsValid)
    (hlocate : locate fs file = .ok path) (hformat : Format.ofKind? path.kind = some format)
    (hsave : saveFile fs s file = .ok fs')
    (create : Bool) : load (.own deepest) fs' (some file) [] create = (fs', format.reload s) := by
  obtain ⟨hwrite, hw⟩ := saveFile_eq_ok hlocate hsave
  have hnames := names_ne_nil hformat
  have hread : fs'.read path = .ok s.storedText := Files.read_write hhere hnames hwrite
  obtain ⟨hkeeps, -⟩ := Files.find_write hhere hnames hwrite
  have hlocate' : locate fs' ((some file).getD defaultFile) = .ok path :=
    (locate_of_keeps hkeeps file).trans hlocate
  have hload : loadFile (.own deepest) fs' ((some file).getD defaultFile) [] = format.reload s :=
    loadFile_of_read hs hw hdeep hlocate' hformat hread
  rw [load_of_read hlocate' hread, hload]

theorem load_missing (hhere : fs.here.isRelative = false) (hdeep : 2 < deepest)
    (hlocate : locate fs file = .ok path) (hformat : Format.ofKind? path.kind = some format)
    (hmissing : fs.contains path = false) :
    load (.own deepest) fs (some file) [] true
      = match generate fs file with
        | .ok fs' => (fs', format.reload {})
        | .error f => (fs, .error f) := by
  have hcreate : createMissing fs file = generate fs file := by
    rw [createMissing, hlocate]
    simp only [bind, Except.bind, hmissing, Bool.false_eq_true, if_false]
  rw [load, if_pos rfl, Option.getD_some, hcreate]
  cases hgenerate : generate fs file with
  | error f => rfl
  | ok fs' =>
    -- the file that was written is there, so it is loaded as one that was found
    exact load_saveFile hhere hdeep isValid_default hlocate hformat hgenerate false

/-- **Saved settings come back from a file of YAML, and never from one of JSON**, and the
    same holds of default settings that are written because the file is missing.  The reader
    has to follow a list in a mapping. -/
theorem load_saved (hhere : fs.here.isRelative = false) (hdeep : 2 < deepest) (hs : s.IsValid)
    (hlocate : locate fs file = .ok path) (hformat : Format.ofKind? path.kind = some format) :
    (∀ fs', save fs s (some file) = .ok fs' →
        ∀ create, load (.own deepest) fs' (some file) [] create = (fs', format.reload s))
      ∧ (fs.contains path = false →
        load (.own deepest) fs (some file) [] true
          = match generate fs file with
            | .ok fs' => (fs', format.reload {})
            | .error f => (fs, .error f)) := by
  constructor
  · intro fs' hsave create
    rw [save_of_format hlocate hformat] at hsave
    exact load_saveFile hhere hdeep hs hlocate hformat hsave create
  · exact load_missing hhere hdeep hlocate hformat

def emptyFiles : Files := { here := ⟨"/", ["repo"]⟩, home := ⟨"/", ["home"]⟩ }

/-- Settings with all that writing has to decide about: nothing and an empty list, a text
    that looks like a number, and one with line breaks. -/
def variedSettings : Settings :=
  { strict := true
    trialRepo := some "octo/trial"
    firewallEngines := []
    firewallEngineSupport := ["copilot", "two\n\nlines", "# it's"]
    defaultFirewallVersion := "1.0"
    logging := { level := .debug, maxSizeMb := 120 } }

theorem load_saved_varied :
    variedSettings.IsValid
      ∧ (∃ fs', save emptyFiles variedSettings (some "conf/c.YML") = .ok fs'
        ∧ load (.own 100) fs' (some "conf/c.YML") [] false = (fs', .ok variedSettings))
      ∧ ∃ fs', generate emptyFiles "conf/c.YML" = .ok fs'
        ∧ load (.own 100) emptyFiles (some "conf/c.YML") [] true = (fs', .ok {}) := by
  have hvalid : variedSettings.IsValid := by
    refine ⟨?_, ⟨nofun, by decide, by decide⟩⟩
    rintro repo ⟨⟩
    rfl
  have hlocate : locate emptyFiles "conf/c.YML" = .ok ⟨"", ["conf", "c.YML"]⟩ := by
    decide +kernel
  have hformat : Format.ofKind? (Path.kind ⟨"", ["conf", "c.YML"]⟩) = some .yaml := by
    decide +kernel
  have hdeep : 2 < 100 := by decide
  obtain ⟨hsaved, hmissing⟩ := load_saved rfl hdeep hvalid hlocate hformat
  refine ⟨hvalid, ?_, ?_⟩
  · have hsave : (save emptyFiles variedSettings (some "conf/c.YML")).toBool = true := by
      decide +kernel
    cases h : save emptyFiles variedSettings (some "conf/c.YML") with
    | error f =>
      rw [h] at hsave
      cases hsave
    | ok fs' => exact ⟨fs', rfl, hsaved fs' h false⟩
  · have hgenerate : (generate emptyFiles "conf/c.YML").toBool = true := by
      decide +kernel
    have hload := hmissing (by decide +kernel)
    cases h : generate emptyFiles "conf/c.YML" with
    | error f =>
      rw [h] at hgenerate
      cases hgenerate
    | ok fs' =>
      rw [h] at hload
      exact ⟨fs', rfl, hload⟩

/-- Default settings that are created in a file of JSON cannot be loaded. -/
theorem load_createdJson :
    locate emptyFiles "c.json" = .ok ⟨"", ["c.json"]⟩
      ∧ Format.ofKind? (Path.kind ⟨"", ["c.json"]⟩) = some .json
      ∧ emptyFiles.contains ⟨"", ["c.json"]⟩ = false
      ∧ (generate emptyFiles "c.json").toBool = true
      ∧ (load (.own 100) emptyFiles (some "c.json") [] true).2
        = .error (.json .malformed) := by
  have hlocate : locate emptyFiles "c.json" = .ok ⟨"", ["c.json"]⟩ := by
    decide +kernel
  have hformat : Format.ofKind? (Path.kind ⟨"", ["c.json"]⟩) = some .json := by
    decide +kernel
  have hmissing : emptyFiles.contains ⟨"", ["c.json"]⟩ = false := by
    decide +kernel
  have hgenerate : (generate emptyFiles "c.json").toBool = true := by
    decide +kernel
  refine ⟨hlocate, hformat, hmissing, hgenerate, ?_⟩
  rw [load_missing rfl (by decide) hlocate hformat hmissing]
  cases h : generate emptyFiles "c.json" with
  | error f =>
    rw [h] at hgenerate
    cases hgenerate
  | ok fs' => rfl

end Settings

end WorkflowPolicy
