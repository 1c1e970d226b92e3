/-
  WorkflowPolicy/Network.lean
  ===========================
  **Network permissions.**  A workflow lists the domains that its agent may reach
  and those it may not.  Declaring a network without any allowed domain cuts the
  agent off; declaring none at all means the default domain set.
-/
import WorkflowPolicy.Firewall

namespace WorkflowPolicy

structure Network where
  allowed : List Text := []
  blocked : List Text := []
  /-- The firewall settings; absent when the firewall is off. -/
  firewall : Option Firewall := none
  explicit : Bool := false
deriving DecidableEq, Repr

namespace Network

def defaultSet : Text := "defaults"

def default : Network := { allowed := [defaultSet] }

/-! ### What a network allows -/

def deniesAll (n : Network) : Bool := n.explicit && n.allowed.isEmpty

/-- The bare wildcard lifts every restriction. -/
def allowsEverything (n : Network) : Bool := n.allowed.contains "*"

def usesDefaultsOnly (n : Network) : Bool := n.allowed == [defaultSet]

/-- Whether the agent may reach anything else than the default domain set, or
    nothing at all. -/
def isRestricted (n : Network) : Bool :=
  (!n.allowed.isEmpty && !n.usesDefaultsOnly) || n.deniesAll

/-! ### Reading and rendering -/

/-- The network that a frontmatter value declares: the name of the default set, or
    a mapping. -/
def ofData? : Data → Option Network
  | .text s => if s = defaultSet then some { default with explicit := true } else none
  | .map es =>
    let m : Mapping := es
    some
      { allowed := ((m.value "allowed").texts?).getD []
        blocked := ((m.value "blocked").texts?).getD []
        firewall := (m.get? "firewall").bind Firewall.ofData?
        explicit := true }
  | _ => none

def ofFrontmatter? (m : Mapping) : Option Network := (m.get? "network").bind ofData?

/-- Whether reading the network meets a firewall version that is too long. -/
def isOverlong (m : Mapping) : Bool :=
  match m.value "network" with
  | .map es => Firewall.isOverlong (Mapping.value es "firewall")
  | _ => false

/-- The network of a frontmatter, as the compiler reads it. -/
def read (m : Mapping) : Check (Option Network) := do
  Check.unlessOverlong (isOverlong m)
  return ofFrontmatter? m

def toData (n : Network) : Data :=
  .ofFields
    (([("allowed", .ofTexts n.allowed)] : Fields Data)
      ++ Firewall.entry (n.blocked ≠ []) "blocked" (.ofTexts n.blocked)
      ++ match n.firewall with
        | some f => [("firewall", f.toData)]
        | none => [])

def ofRecord : Schema Network :=
  Schema.model fun m => Network.mk
    <$> Schema.field m "allowed" [] (Schema.list Schema.text)
    <*> Schema.field m "blocked" [] (Schema.list Schema.text)
    <*> Schema.field m "firewall" none (Schema.optional Firewall.ofRecord)
    <*> Schema.field m "explicitly_defined" false Schema.flag

/-! ### Engines -/

def supportText : Text :=
  "strict mode: engine must support firewall when network restrictions (network.allowed) "
   ++ "are set"

def engineName (engine : Option Text) : Text := engine.getD "None"

/-- Restrictions need an engine that enforces them: in strict mode it is an error
    if it cannot, otherwise a warning. -/
def checkSupport (engine : Option Text) (n : Network) (strict : Bool)
    (supported : List Text) : Check Unit :=
  if n.isRestricted = false ∨ engine.any (supported.contains ·) then pure ()
  else if strict then Check.reject (.networkSupport (engine.getD "") supportText)
  else Check.warn ("Selected engine '" ++ engineName engine
    ++ "' does not support network firewalling; network restrictions will not be enforced")

end Network

end WorkflowPolicy
