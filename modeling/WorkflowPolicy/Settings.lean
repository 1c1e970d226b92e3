/-
  WorkflowPolicy/Settings.lean
  ============================
  **Settings of the compiler.**  They hold the defaults that a workflow does not
  set itself.  Settings are read from a mapping whose values are checked field by
  field; every field has a default, so the empty mapping gives the default
  settings.
-/
import WorkflowPolicy.Schema

namespace WorkflowPolicy

/-- How serious a record is, and from which seriousness on records are logged. -/
inductive LogLevel where
  | debug
  | info
  | warning
  | error
  | critical
deriving DecidableEq, Repr

namespace LogLevel

def name : LogLevel → Text
  | .debug => "debug"
  | .info => "info"
  | .warning => "warning"
  | .error => "error"
  | .critical => "critical"

def heading : LogLevel → String
  | .debug => "DEBUG"
  | .info => "INFO"
  | .warning => "WARNING"
  | .error => "ERROR"
  | .critical => "CRITICAL"

def all : List LogLevel := [.debug, .info, .warning, .error, .critical]

def rank : LogLevel → Nat
  | .debug => 0
  | .info => 1
  | .warning => 2
  | .error => 3
  | .critical => 4

/-- Whether a record of a level is logged from another level on. -/
def passes (level atLeast : LogLevel) : Bool := decide (atLeast.rank ≤ level.rank)

def choices : List (Text × LogLevel) :=
  [("debug", .debug), ("info", .info), ("warning", .warning), ("error", .error)]

end LogLevel

structure LogSettings where
  level : LogLevel := .warning
  file : Option Text := none
  /-- The size in megabytes at which the file is rotated. -/
  maxSizeMb : Int := 10
  backupCount : Int := 5
deriving DecidableEq, Repr

structure Settings where
  /-- Whether workflows are strict unless they say otherwise. -/
  strict : Bool := false
  trialMode : Bool := false
  /-- The repository that trial runs write to, as owner and name. -/
  trialRepo : Option Text := none
  /-- The engines to which the firewall default applies. -/
  firewallEngines : List Text := ["copilot", "codex", "claude"]
  /-- The engines that can enforce network restrictions. -/
  firewallEngineSupport : List Text := ["copilot", "codex", "claude"]
  /-- The firewall version for workflows that pin none. -/
  defaultFirewallVersion : Text := "v0.13.0"
  logging : LogSettings := {}
deriving DecidableEq, Repr

/-! ### Rules on single fields -/

def Schema.positive : Schema Int := fun d =>
  (Schema.integer d).andThen fun n =>
    if n ≤ 0 then .refuse .ruleBroken else .accepted n

def isOwnerAndName (repo : Text) : Bool := repo.toList.count (.char '/') == 1

/-- A repository, given as owner and name, or nothing. -/
def Schema.repository : Schema (Option Text) := fun d =>
  (Schema.optional Schema.text d).andThen fun repo =>
    if repo.all isOwnerAndName then .accepted repo else .refuse .ruleBroken

/-! ### Reading -/

def LogSettings.ofRecord : Schema LogSettings :=
  Schema.model fun m => LogSettings.mk
    <$> Schema.field m "level" .warning (Schema.choice LogLevel.choices)
    <*> Schema.field m "file" none (Schema.optional Schema.text)
    <*> Schema.field m "max_size_mb" 10 Schema.positive
    <*> Schema.field m "backup_count" 5 Schema.positive

namespace Settings

def firewalledEngines : List Text := ["copilot", "codex", "claude"]

def ofMapping (m : Mapping) : Verdict Settings :=
  Settings.mk
    <$> Schema.field m "strict" false Schema.flag
    <*> Schema.field m "trial_mode" false Schema.flag
    <*> Schema.field m "trial_repo" none Schema.repository
    <*> Schema.field m "firewall_engines" firewalledEngines (Schema.list Schema.text)
    <*> Schema.field m "firewall_engine_support" firewalledEngines (Schema.list Schema.text)
    <*> Schema.field m "default_firewall_version" "v0.13.0" Schema.text
    <*> Schema.field m "logging" {} LogSettings.ofRecord

end Settings

/-! ### Written form -/

def LogSettings.toFields (s : LogSettings) : Fields Data :=
  ([("level", .text s.level.name)] : Fields Data)
    ++ (match s.file with
      | some f => [("file", .text f)]
      | none => [])
    ++ ([("max_size_mb", .int s.maxSizeMb), ("backup_count", .int s.backupCount)] : Fields Data)

/-- The settings as data, without the fields that are not set. -/
def Settings.toData (s : Settings) : Data :=
  .ofFields
    (([("strict", .bool s.strict), ("trial_mode", .bool s.trialMode)] : Fields Data)
      ++ (match s.trialRepo with
        | some r => [("trial_repo", .text r)]
        | none => [])
      ++ ([("firewall_engines", .ofTexts s.firewallEngines),
        ("firewall_engine_support", .ofTexts s.firewallEngineSupport),
        ("default_firewall_version", .text s.defaultFirewallVersion),
        ("logging", .ofFields s.logging.toFields)] : Fields Data))

end WorkflowPolicy
