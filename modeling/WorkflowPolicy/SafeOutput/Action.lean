/-
  WorkflowPolicy/SafeOutput/Action.lean
  =====================================
  **Output actions.**  An action is a kind with its limit, its staging flag and one
  setting per option of the kind.  `Action.ofOptions` reads it from an options
  mapping in which each option may stand under its key or under its field name;
  malformed options keep their defaults.

  `Action.toData` is the canonical mapping, in the order of the option table.  The
  handler's entry differs from it only in the limit: a limit that is not positive
  means none and is left out.
-/
import WorkflowPolicy.Failure
import WorkflowPolicy.SafeOutput.Kind

namespace WorkflowPolicy.SafeOutput

/-- A configured output action.  `settings` follows `kind.options`. -/
structure Action where
  kind : Kind
  max : Option (Templatable Int)
  staged : Bool
  settings : List (Option Setting)
deriving DecidableEq, Repr

/-! ### Reading options -/

/-- The raw value of an option: under its key, else under its field name. -/
def OptionSpec.raw? (o : OptionSpec) (m : Mapping) : Option Data :=
  (m.get? o.key).or (m.get? o.field)

/-- The setting of an option: a value that is absent or refused leaves the
    default. -/
def OptionSpec.setting? (o : OptionSpec) (m : Mapping) : Option Setting :=
  ((o.raw? m).bind o.rule.read?).or o.default

def OptionSpec.isOverlong (o : OptionSpec) (m : Mapping) : Bool :=
  (o.raw? m).any o.rule.isOverlong

namespace Kind

def defaultLimit (k : Kind) : Option (Templatable Int) := k.defaultMax.map .literal

/-- Whether a number exceeds the highest limit of a kind. -/
def exceeds (k : Kind) (n : Int) : Bool := k.ceiling.any fun c => decide (c < n)

/-- The limit of an action from its raw value: the default when it is absent or
    malformed, and never above the ceiling. -/
def limit (k : Kind) (raw : Data) : Option (Templatable Int) :=
  match Templatable.integer? raw with
  | none => k.defaultLimit
  | some (.literal n) => if k.exceeds n then k.ceiling.map .literal else some (.literal n)
  | some t => some t

def limitWarnings (k : Kind) (raw : Data) : List Text :=
  match Templatable.integer? raw, k.ceiling with
  | some (.literal n), some c =>
    if c < n then
      [k.name ++ ": max " ++ Decimal.ofInt n ++ " exceeds the limit of " ++ Decimal.ofInt c
        ++ ", using " ++ Decimal.ofInt c]
    else []
  | _, _ => []

/-- Whether the limit or an option is a number with too many digits. -/
def isOverlong (k : Kind) (m : Mapping) : Bool :=
  Templatable.isOverlong (m.value "max") || k.options.any (·.isOverlong m)

/-- The options of a kind after the rewriting that the kind asks for: labels that
    are allowed to be set imply that labels are updated. -/
def prepared (k : Kind) (m : Mapping) : Mapping :=
  if k = .updateDiscussion ∧ ((m.value "allowed-labels").texts?).getD [] ≠ []
      ∧ m.get? "labels" = none then
    m.insert "labels" (.bool true)
  else m

end Kind

namespace Action

/-! ### Fields -/

def fields (a : Action) : Fields (Option Setting) :=
  (a.kind.options.map (·.field)).zip a.settings

/-- The setting of a field, if the kind has it and it is set. -/
def setting? (a : Action) (field : Text) : Option Setting := (a.fields.get? field).join

def targetRepo? (a : Action) : Option Text := (a.setting? "target_repo").bind Setting.text?

def wildcardRepo : Text := "*"

def targetsWildcard (a : Action) : Bool := a.targetRepo? == some wildcardRepo

/-! ### Building -/

def ofMapping (k : Kind) (m : Mapping) : Action :=
  let m := k.prepared m
  { kind := k
    max := k.limit (m.value "max")
    staged := ((m.value "staged").flag?).getD false
    settings := k.options.map (·.setting? m) }

/-- The action of an options mapping.  Numbers that are too long are refused while the
    options are read, a wildcard target afterwards. -/
def ofOptions (k : Kind) (m : Mapping) : Verdict Action :=
  let a := ofMapping k m
  if k.isOverlong (k.prepared m) || a.targetsWildcard then .refuse .ruleBroken else .accepted a

def optionWarnings (k : Kind) (m : Mapping) : List Text :=
  if k.isOverlong (k.prepared m) then [] else k.limitWarnings ((k.prepared m).value "max")

/-- The action that a value describes directly: null for the defaults, or a mapping
    of options. -/
def ofRecord (k : Kind) : Schema Action
  | .null => ofOptions k []
  | .map m => ofOptions k m
  | _ => .refuse .notModel

/-! ### Extraction -/

/-- The options that a frontmatter value gives: null gives none, and a bare list
    stands for one field of the kinds that have a shorthand. -/
def optionsOf (k : Kind) : Data → Option Mapping
  | .null => some []
  | .list xs => k.shorthand.map fun field => [(.text field, .list xs)]
  | .map m => some m
  | _ => none

/-- Whether a raw value names the wildcard as its target repository. -/
def namesWildcard : Data → Bool
  | .map es => Mapping.get? es "target-repo" == some (.text wildcardRepo)
  | _ => false

def wildcardWarning (k : Kind) : Text :=
  k.name ++ ": target-repo '*' is not allowed, rejecting configuration"

def invalidWarning (k : Kind) : Text := "Ignoring invalid " ++ k.name ++ " configuration"

/-- The action that a frontmatter value configures, if any. -/
def extract? (k : Kind) (d : Data) : Option Action :=
  (optionsOf k d).bind fun m =>
    if namesWildcard (.map m) then none else (ofOptions k m).toOption

/-- The warnings that extraction leaves: a wildcard target is reported before the
    options are read, a lowered limit while they are read. -/
def extractWarnings (k : Kind) (d : Data) : List Text :=
  match optionsOf k d with
  | none => []
  | some m =>
    if namesWildcard (.map m) then [wildcardWarning k]
    else
      optionWarnings k m
        ++ match ofOptions k m with
          | .accepted _ => []
          | .refused _ => [invalidWarning k]

/-! ### Written forms -/

/-- The written entry of one option, when it is set. -/
def settingEntry (o : OptionSpec) (s : Option Setting) : Fields Data :=
  match s with
  | some s => [(o.key, s.toData)]
  | none => []

def settingEntries (a : Action) : Fields Data :=
  (List.zipWith settingEntry a.kind.options a.settings).flatten

def stagedEntry (a : Action) : Fields Data := if a.staged then [("staged", .bool true)] else []

def limitEntry (limit : Option Data) : Fields Data :=
  match limit with
  | some d => [("max", d)]
  | none => []

def toData (a : Action) : Data :=
  .ofFields (limitEntry (a.max.map (·.integerData)) ++ a.settingEntries ++ a.stagedEntry)

/-- The entry of an action in the configuration of its handler. -/
def handlerConfig (a : Action) : Data :=
  .ofFields (limitEntry (a.max.bind (·.limitData?)) ++ a.settingEntries ++ a.stagedEntry)

end Action

end WorkflowPolicy.SafeOutput
