/-
  WorkflowPolicy/Firewall.lean
  ============================
  **Firewall settings.**  The egress firewall is on when its settings are present
  and off when they are absent; settings that are malformed keep their defaults.

  Two rules are checked after reading: an allowlist of URLs needs HTTPS
  inspection, and the log level is one of four words.  The rest of the module
  says what the firewall is started with.
-/
import WorkflowPolicy.Data.Shape
import WorkflowPolicy.Failure

namespace WorkflowPolicy

structure Firewall where
  /-- The version to run; empty for the default one. -/
  version : Text := ""
  args : List Text := []
  /-- The log level; empty for the default one. -/
  logLevel : Text := ""
  /-- Whether HTTPS traffic is inspected. -/
  sslBump : Bool := false
  allowUrls : List Text := []
deriving DecidableEq, Repr

namespace Firewall

def logLevels : List Text := ["debug", "info", "warn", "error"]

def defaultLogLevel : Text := "info"

def effectiveLogLevel (f : Firewall) : Text :=
  if f.logLevel = "" then defaultLogLevel else f.logLevel

/-! ### Reading and rendering -/

def version? : Data → Option Text
  | .text s => some s
  | .int n => some (Decimal.ofInt n)
  | .float x => some (Decimal.plain.write x)
  | _ => none

/-- Whether the version of a mapping is a number too long to be put into text. -/
def isOverlong : Data → Bool
  | .map es =>
    match Mapping.value es "version" with
    | .int n => !Decimal.isWritable n
    | _ => false
  | _ => false

/-- The settings that a frontmatter value declares.  Null, true and a mapping turn
    the firewall on; false and every text turn it off. -/
def ofData? : Data → Option Firewall
  | .null | .bool true => some {}
  | .map es =>
    let m : Mapping := es
    some
      { version := (version? (m.value "version")).getD ""
        args := ((m.value "args").texts?).getD []
        logLevel := ((m.value "log-level").text?).getD ""
        sslBump := ((m.value "ssl-bump").flag?).getD false
        allowUrls := ((m.value "allow-urls").texts?).getD [] }
  | _ => none

/-- One entry of a rendered mapping, when it says something. -/
def entry (present : Bool) (key : Text) (value : Data) : Fields Data :=
  if present then [(key, value)] else []

/-- The frontmatter value of the settings; defaults are left out. -/
def toData (f : Firewall) : Data :=
  .ofFields
    (entry (f.args ≠ []) "args" (.ofTexts f.args)
      ++ entry (f.version ≠ "") "version" f.version
      ++ entry (f.logLevel ≠ "") "log-level" f.logLevel
      ++ entry f.sslBump "ssl-bump" (.bool true)
      ++ entry (f.allowUrls ≠ []) "allow-urls" (.ofTexts f.allowUrls))

def ofRecord : Schema Firewall :=
  Schema.model fun m => Firewall.mk
    <$> Schema.field m "version" "" Schema.text
    <*> Schema.field m "args" [] (Schema.list Schema.text)
    <*> Schema.field m "log_level" "" Schema.text
    <*> Schema.field m "ssl_bump" false Schema.flag
    <*> Schema.field m "allow_urls" [] (Schema.list Schema.text)

/-! ### Rules -/

def allowUrlsViolation : Violation :=
  { field := "network.firewall.allow-urls"
    value := "requires ssl-bump: true"
    reason := "allow-urls requires ssl-bump: true to function. SSL Bump enables HTTPS "
      ++ "content inspection, which is necessary for URL path filtering"
    suggestion := "Enable SSL Bump in your firewall configuration:\n\n"
      ++ "network:\n"
      ++ "  firewall:\n"
      ++ "    ssl-bump: true\n"
      ++ "    allow-urls:\n"
      ++ "      - \"https://github.com/githubnext/*\"\n\n"
      ++ "See: https://github.github.com/gh-aw/reference/network/" }

def checkAllowUrls (f : Firewall) : Check Unit :=
  if f.allowUrls ≠ [] ∧ f.sslBump = false then do
    Check.warn s!"allow-urls specified without ssl-bump ({f.allowUrls.length} URLs)"
    Check.reject (.invalid allowUrlsViolation)
  else pure ()

def logLevelViolation (level : Text) : Violation :=
  { field := "network.firewall.log-level"
    value := level
    reason := "invalid log-level '" ++ level ++ "', must be one of: "
      ++ Text.intercalate ", " logLevels }

def checkLogLevel (level : Text) : Check Unit :=
  if level = "" ∨ level ∈ logLevels then pure ()
  else Check.reject (.invalid (logLevelViolation level))

/-! ### What the firewall is started with -/

def sslBumpArgs (f : Firewall) : Option (List Text) :=
  if f.sslBump = false then none
  else if f.allowUrls = [] then some ["--ssl-bump"]
  else some ["--ssl-bump", "--allow-urls", Text.intercalate "," f.allowUrls]

/-- A version without the letter that marks it as one. -/
def imageTag (version : Text) : Text :=
  match version.toList with
  | 'v' :: rest => ⟨rest⟩
  | _ => version

/-- The image tag: that of the pinned version, else that of the default. -/
def imageTagOf (f : Option Firewall) (defaultVersion : Text) : Text :=
  match f with
  | some f => imageTag (if f.version = "" then defaultVersion else f.version)
  | none => imageTag defaultVersion

end Firewall

end WorkflowPolicy
