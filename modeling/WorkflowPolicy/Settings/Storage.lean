/-
  WorkflowPolicy/Settings/Storage.lean
  ====================================
  **Settings in files.**  Settings are read from YAML or JSON, as the suffix of the
  file says, then overridden, then checked as a whole.  A missing file stands for no
  settings at all, whatever its suffix.  They are saved as YAML, for their owner's
  eyes only.
-/
import WorkflowPolicy.Files
import WorkflowPolicy.Readers
import WorkflowPolicy.Settings
import WorkflowPolicy.Settings.Override
import WorkflowPolicy.Yaml.Writer

namespace WorkflowPolicy.Settings

/-! ### Faults -/

inductive Fault where
  /-- The suffix of the file names no format. -/
  | format (kind : Text) (path : Path)
  | yaml (f : Yaml.Fault)
  | json (f : Json.ReadFault)
  | notMapping (kindName : String)
  /-- Settings with values that their fields refuse. -/
  | refused (rs : List Refusal)
  /-- Settings with a key that is no text. -/
  | strangeKey
  | override (f : OverrideFault)
  | file (e : FileError)
  /-- Settings with an integer that has too many digits to be saved. -/
  | overlong
deriving DecidableEq, Repr

def Fault.message? : Fault → Option Text
  | .format kind path =>
    some ("Config file must have .yaml, .yml, or .json extension, got: " ++ kind
      ++ "\nFile: " ++ path.text)
  | .yaml .malformed | .yaml .strangeCharacter => some "Invalid YAML in config file"
  | .yaml f => f.message?.map Text.ofString
  | .json .malformed => some "Invalid JSON in config file"
  | .json f => f.message?.map Text.ofString
  | .notMapping kindName => some ("Config file must contain a mapping, got " ++ kindName)
  | .refused _ | .strangeKey => some "Configuration validation failed"
  | .file e => e.message?.map Text.ofString
  | .overlong => some Text.overlongMessage
  | .override _ => none

/-! ### Formats -/

inductive Format where
  | yaml
  | json
deriving DecidableEq, Repr

/-- The format that a suffix in small letters names. -/
def Format.ofKind? (kind : Text) : Option Format :=
  if kind = ".yaml" ∨ kind = ".yml" then some .yaml
  else if kind = ".json" then some .json
  else none

/-- The document of a text.  A blank text in JSON is an empty mapping. -/
def Format.read (readers : Readers) : Format → String → Except Fault Document
  | .yaml, text =>
    match readers.yaml text with
    | .ok doc => .ok doc
    | .error f => .error (.yaml f)
  | .json, text =>
    if Text.strip text = "" then .ok (.ofData (.map []))
    else
      match readers.json text with
      | .ok d => .ok (.ofData d)
      | .error f => .error (.json f)

/-- Settings have to be a mapping; null stands for an empty one. -/
def mappingOf (doc : Document) : Except Fault Document :=
  match doc.root, doc.entries? doc.root with
  | _, some _ => .ok doc
  | .own .null, none => .ok (.ofData (.map []))
  | _, none => .error (.notMapping doc.data.kindName)

/-! ### Checking -/

/-- The settings of a mapping, all of whose keys have to be texts. -/
def ofEntries (m : Mapping) : Except Fault Settings :=
  if m.strangeKeys.isEmpty then
    match ofMapping m with
    | .accepted s => .ok s
    | .refused rs => .error (.refused rs)
  else .error .strangeKey

/-! ### Loading -/

/-- The file that holds the settings if none is named. -/
def defaultFile : String := "~/.flowguard/config.yaml"

def locate (fs : Files) (file : String) : Except Fault Path :=
  match fs.expand (Path.ofText file) with
  | .ok p => .ok p
  | .error e => .error (.file e)

/-- The document of a file; an empty mapping if it is missing. -/
def documentAt (readers : Readers) (fs : Files) (file : String) : Except Fault Document := do
  let path ← locate fs file
  if !fs.contains path then return .ofData (.map [])
  match Format.ofKind? path.kind with
  | none => .error (.format path.kind path)
  | some format =>
    match fs.read path with
    | .error e => .error (.file e)
    | .ok text => mappingOf (← format.read readers text)

def loadFile (readers : Readers) (fs : Files) (file : String) (overrides : Mapping) :
    Except Fault Settings := do
  let doc ← documentAt readers fs file
  match overridden doc overrides with
  | .ok m => ofEntries m
  | .error f => .error (.override f)

/-! ### Saving -/

/-- Read and written by the owner alone. -/
def ownerOnly : Nat := 0o600

def entries (s : Settings) : Mapping :=
  match s.toData with
  | .map es => es
  | _ => []

def fileText (s : Settings) : String := Yaml.write s.entries

/-- Whether every integer of the settings can be written. -/
def isWritable (s : Settings) : Bool := (Data.map s.entries).isShowable

def saveFile (fs : Files) (s : Settings) (file : String) : Except Fault Files := do
  let path ← locate fs file
  match fs.write path s.fileText ownerOnly with
  | .ok fs => if s.isWritable then .ok fs else .error .overlong
  | .error e => .error (.file e)

/-- Save settings in a file, or in the default one if none is named. -/
def save (fs : Files) (s : Settings) (file : Option String) : Except Fault Files :=
  saveFile fs s (match file with
    | none | some "" => defaultFile
    | some f => f)

def generate (fs : Files) (file : String) : Except Fault Files := saveFile fs {} file

/-! ### Both -/

/-- The files after default settings were written where a file was missing. -/
def createMissing (fs : Files) (file : String) : Except Fault Files := do
  let path ← locate fs file
  if fs.contains path then return fs else generate fs file

/-- Load settings from a file, or from the default one if none is named.  With
    `create`, a missing file is written first. -/
def load (readers : Readers) (fs : Files) (file : Option String) (overrides : Mapping)
    (create : Bool) : Files × Except Fault Settings :=
  let file := file.getD defaultFile
  match if create then createMissing fs file else .ok fs with
  | .ok fs => (fs, loadFile readers fs file overrides)
  | .error f => (fs, .error f)

end WorkflowPolicy.Settings
