/-
  WorkflowPolicy/CommandLine/Arguments.lean
  =========================================
  **Options and other arguments.**  An argument that starts with a dash names
  options: after two dashes stands one long name, perhaps with a value attached by
  an equals sign; after one dash stands a cluster of letters.  Two dashes alone end
  the options.

  An option that needs a value takes the next argument, whatever it looks like.
-/
import WorkflowPolicy.Data.Display
import WorkflowPolicy.Text.Similarity

namespace WorkflowPolicy.CommandLine

/-! ### Faults -/

/-- What was wrong with the place that an argument names. -/
inductive PlaceFault where
  | missing
  | isDirectory
  | unnameable
deriving DecidableEq, Repr

inductive UsageFault where
  /-- An unknown option, and the known ones that are close to it. -/
  | unknownOption (name : String) (close : List String)
  | noValue (name : String)
  | unwantedValue (name : String)
  | missingArgument (name : String)
  | extraArguments (args : List String)
  /-- An unknown command, and the known ones that are close to it. -/
  | unknownCommand (name : String) (close : List String)
  | missingCommand
  /-- An argument that has to name a file, or any place, and does not. -/
  | place (argument kindName text : String) (fault : PlaceFault)
deriving DecidableEq, Repr

/-- The names that may have been meant. -/
def suggestion : List String → String
  | [] => ""
  | [name] => " Did you mean " ++ Data.quoted name ++ "?"
  | names =>
    let sorted := names.mergeSort fun a b => !decide (b < a)
    " (Did you mean one of: "
      ++ ", ".intercalate (sorted.map fun (n : String) => Data.quoted n) ++ "?)"

def PlaceFault.message : PlaceFault → String
  | .missing => "does not exist."
  | .isDirectory => "is a directory."
  | .unnameable => "has no valid name."

def UsageFault.message : UsageFault → String
  | .unknownOption name close =>
    "No such option " ++ Data.quoted name ++ "." ++ suggestion close
  | .noValue name => "Option " ++ Data.quoted name ++ " requires an argument."
  | .unwantedValue name => "Option " ++ Data.quoted name ++ " does not take a value."
  | .missingArgument name => "Missing argument '" ++ name ++ "'."
  | .extraArguments args =>
    "Got unexpected extra argument" ++ (if args.length = 1 then "" else "s")
      ++ " (" ++ " ".intercalate args ++ ")"
  | .unknownCommand name close =>
    "No such command " ++ Data.quoted name ++ "." ++ suggestion close
  | .missingCommand => "Missing command."
  | .place argument kindName text fault =>
    "Invalid value for '" ++ argument ++ "': " ++ kindName ++ " " ++ Data.quoted text ++ " "
      ++ fault.message

/-- Whether the usage is shown with a fault.  An option that is known, but has no value
    or one too many, is named without it. -/
def UsageFault.showsUsage : UsageFault → Bool
  | .noValue _ | .unwantedValue _ => false
  | _ => true

/-! ### Options -/

/-- An option by one of its names. -/
structure OptionRule where
  name : String
  takesValue : Bool := false
deriving DecidableEq, Repr

structure Grammar where
  options : List OptionRule
  /-- Whether options may stand behind other arguments. -/
  mixed : Bool := true
deriving Repr

def Grammar.find? (g : Grammar) (name : String) : Option OptionRule :=
  g.options.find? (·.name == name)

def isLong (name : String) : Bool := "--".isPrefixOf name

def Grammar.longNames (g : Grammar) : List String :=
  (g.options.map (·.name)).filter isLong

/-! ### Reading -/

/-- Arguments sorted into options and others, in the order in which they stand. -/
structure Arguments where
  options : List (String × String) := []
  others : List String := []
deriving Repr

namespace Arguments

structure Reading where
  sorted : Arguments := {}
  /-- The option whose value comes next. -/
  pending : Option String := none
  /-- Whether no more options follow. -/
  closed : Bool := false
deriving Repr

namespace Reading

def give (r : Reading) (name value : String) : Reading :=
  { r with
    sorted := { r.sorted with options := r.sorted.options ++ [(name, value)] }
    pending := none }

def other (r : Reading) (arg : String) : Reading :=
  { r with sorted := { r.sorted with others := r.sorted.others ++ [arg] } }

/-- The name of a long option, and the value attached to it. -/
def splitAttached (arg : String) : String × Option String :=
  let cs := arg.toList
  match cs.dropWhile (· != '=') with
  | _ :: value => (String.ofList (cs.takeWhile (· != '=')), some (String.ofList value))
  | [] => (arg, none)

def long (g : Grammar) (r : Reading) (arg : String) : Except UsageFault Reading :=
  let (name, attached) := splitAttached arg
  match g.find? name, attached with
  | none, _ => .error (.unknownOption name (Text.closeMatches name g.longNames))
  | some ⟨_, true⟩, some value => .ok (r.give name value)
  | some ⟨_, true⟩, none => .ok { r with pending := some name }
  | some ⟨_, false⟩, some _ => .error (.unwantedValue name)
  | some ⟨_, false⟩, none => .ok (r.give name "")

/-- The options of a cluster.  What follows the letter of an option that takes a value
    is that value. -/
def cluster (g : Grammar) (r : Reading) : List Char → Except UsageFault Reading
  | [] => .ok r
  | c :: rest =>
    let name := String.ofList ['-', c]
    match g.find? name with
    | none => .error (.unknownOption name [])
    | some ⟨_, false⟩ => cluster g (r.give name "") rest
    | some ⟨_, true⟩ =>
      .ok (if rest.isEmpty then { r with pending := some name }
        else r.give name (String.ofList rest))

def namesOptions (arg : String) : Bool := "-".isPrefixOf arg && arg != "-"

def step (g : Grammar) (r : Reading) (arg : String) : Except UsageFault Reading :=
  match r.pending with
  | some name => .ok (r.give name arg)
  | none =>
    if r.closed then .ok (r.other arg)
    else if arg = "--" then .ok { r with closed := true }
    else if isLong arg then long g r arg
    else if namesOptions arg then cluster g r (arg.toList.drop 1)
    else .ok { r.other arg with closed := !g.mixed }

end Reading

/-- Sort arguments by the rules of a command. -/
def ofList (g : Grammar) (args : List String) : Except UsageFault Arguments := do
  let r ← args.foldlM (Reading.step g) {}
  match r.pending with
  | some name => .error (.noValue name)
  | none => .ok r.sorted

/-! ### Looking -/

def has (a : Arguments) (name : String) : Bool := a.options.any (·.1 == name)

def value? (a : Arguments) (name : String) : Option String := a.options.reverse.lookup name

/-- A choice between two options, of which the last one counts. -/
def choice? (a : Arguments) (yes no : String) : Option Bool :=
  a.options.reverse.findSome? fun o =>
    if o.1 = yes then some true else if o.1 = no then some false else none

end Arguments

end WorkflowPolicy.CommandLine
