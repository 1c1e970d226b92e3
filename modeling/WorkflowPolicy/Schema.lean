/-
  WorkflowPolicy/Schema.lean
  ==========================
  **Checking data against declared types.**  Settings and models are declared
  field by field.  A value that a field cannot take is *refused*: the refusal
  says where the value stands and what kind of refusal it is.

  Checking never stops at the first refusal.  A `Verdict` is an accepted value or
  all refusals, in the order in which the fields are declared; the applicative
  operations put the verdicts of several fields together in that order.

  Bytes count as the text that they encode in UTF-8, also in a key.
-/
import WorkflowPolicy.Data.Display
import WorkflowPolicy.Text.Integer

namespace WorkflowPolicy

/-! ### Refusals -/

/-- One step on the way to a value: a field or key by name, or a list index. -/
inductive Step where
  | name (s : Text)
  | index (n : Int)
deriving DecidableEq, Repr

inductive Ground where
  | notText
  | unreadableText
  | notFlag
  | unreadableFlag
  | notInteger
  | unreadableInteger
  | fractional
  | notFinite
  | notList
  | notMapping
  | notModel
  | notAmongChoices
  | ruleBroken
deriving DecidableEq, Repr

structure Refusal where
  path : List Step
  ground : Ground
deriving DecidableEq, Repr

/-- An accepted value, or every refusal in order. -/
inductive Verdict (α : Type) where
  | accepted (a : α)
  | refused (rs : List Refusal)
deriving Repr

namespace Verdict

variable {α β : Type}

def map (f : α → β) : Verdict α → Verdict β
  | .accepted a => .accepted (f a)
  | .refused rs => .refused rs

/-- Both verdicts at once: the refusals of the first stand first. -/
def both (f : Verdict (α → β)) (a : Verdict α) : Verdict β :=
  match f, a with
  | .accepted f, .accepted a => .accepted (f a)
  | .accepted _, .refused rs => .refused rs
  | .refused rs, .accepted _ => .refused rs
  | .refused rs, .refused ss => .refused (rs ++ ss)

instance : Functor Verdict where
  map := map

instance : Applicative Verdict where
  pure := .accepted
  seq f a := both f (a ())

/-- A further rule on an accepted value. -/
def andThen (v : Verdict α) (rule : α → Verdict β) : Verdict β :=
  match v with
  | .accepted a => rule a
  | .refused rs => .refused rs

def refuse (g : Ground) : Verdict α := .refused [⟨[], g⟩]

/-- The same verdict with its refusals placed under a step. -/
def within (s : Step) : Verdict α → Verdict α
  | .accepted a => .accepted a
  | .refused rs => .refused (rs.map fun r => { r with path := s :: r.path })

def toOption : Verdict α → Option α
  | .accepted a => some a
  | .refused _ => none

def all : List (Verdict α) → Verdict (List α)
  | [] => .accepted []
  | v :: vs => List.cons <$> v <*> all vs

end Verdict

/-- The declared type of a field: how a value is checked and converted. -/
abbrev Schema (α : Type) := Data → Verdict α

namespace Schema

variable {α : Type}

/-! ### Scalars -/

def any : Schema Data := .accepted

def utf8? (bs : List UInt8) : Option Text :=
  (String.fromUTF8? (ByteArray.mk bs.toArray)).map Text.ofString

/-- The characters of a text; no other scalar is read from one that has more than
    characters. -/
def charsOf (s : Text) : Verdict (List Char) :=
  match s.chars? with
  | some cs => .accepted cs
  | none => .refuse .unreadableText

def text : Schema Text
  | .text s => .accepted s
  | .bytes bs =>
    match utf8? bs with
    | some s => .accepted s
    | none => .refuse .unreadableText
  | _ => .refuse .notText

/-- Words for the two booleans, in any case. -/
def trueWords : List String := ["1", "on", "t", "true", "y", "yes"]

def falseWords : List String := ["0", "off", "f", "false", "n", "no"]

def flagOfInteger (n : Int) : Verdict Bool :=
  if n = 0 then .accepted false
  else if n = 1 then .accepted true
  else .refuse .unreadableFlag

def flagOfText (s : Text) : Verdict Bool :=
  (charsOf s).andThen fun cs =>
    let word := String.ofList (cs.map Char.toLower)
    if word ∈ trueWords then .accepted true
    else if word ∈ falseWords then .accepted false
    else .refuse .unreadableFlag

/-- A boolean, the number zero or one, or one of the words. -/
def flag : Schema Bool
  | .bool b => .accepted b
  | .int n => flagOfInteger n
  | .float x =>
    match x.toInt? with
    | some n => flagOfInteger n
    | none => .refuse .notFlag
  | .text s => flagOfText s
  | .bytes bs =>
    match utf8? bs with
    | some s => flagOfText s
    | none => .refuse .unreadableFlag
  | _ => .refuse .notFlag

/-! ### Integers in text -/

/-- Digits before a fraction that is zero; any other fraction stays. -/
def dropZeroFraction (cs : List Char) : List Char :=
  if ((cs.dropWhile (· != '.')).drop 1).all (· == '0') then cs.takeWhile (· != '.') else cs

/-- Digits after leading zeros, which may be mixed with underscores. -/
def dropLeadingZeros : List Char → List Char
  | '0' :: rest =>
    let isFiller := fun c => c == '0' || c == '_'
    let lastFiller := ((rest.takeWhile isFiller).getLast?).getD '0'
    match rest.dropWhile isFiller with
    | [] => [lastFiller]
    | '.' :: tail => lastFiller :: '.' :: tail
    | cs => cs
  | cs => cs

/-- The integer of a text: a sign, digits with single underscores between them,
    and a fraction of zeros. -/
def integerOfChars? (cs : List Char) : Option Int :=
  match Text.trimNumber cs with
  | '-' :: cs =>
    (Text.digitsValue? Text.asciiDigit? (dropZeroFraction cs)).map (Text.applySign true)
  | '+' :: cs =>
    (Text.digitsValue? Text.asciiDigit? (dropZeroFraction (dropLeadingZeros cs))).map
      (Text.applySign false)
  | cs =>
    (Text.digitsValue? Text.asciiDigit? (dropZeroFraction (dropLeadingZeros cs))).map
      (Text.applySign false)

def integerOfText (s : Text) : Verdict Int :=
  (charsOf s).andThen fun cs =>
    match integerOfChars? cs with
    | some n => .accepted n
    | none => .refuse .unreadableInteger

/-- An integer, a boolean as zero or one, a whole number, or an integer in text. -/
def integer : Schema Int
  | .int n => .accepted n
  | .bool b => .accepted (if b then 1 else 0)
  | .float x =>
    match x.toInt? with
    | some n => .accepted n
    | none => .refuse (if x.isFinite then .fractional else .notFinite)
  | .text s => integerOfText s
  | .bytes bs =>
    match utf8? bs with
    | some s => integerOfText s
    | none => .refuse .unreadableInteger
  | _ => .refuse .notInteger

def choice (choices : List (Text × α)) : Schema α
  | .text s =>
    (charsOf s).andThen fun _ =>
      match choices.lookup s with
      | some a => .accepted a
      | none => .refuse .notAmongChoices
  | _ => .refuse .notAmongChoices

/-! ### Collections -/

/-- Null for nothing, or a value of the schema. -/
def optional (schema : Schema α) : Schema (Option α)
  | .null => .accepted none
  | d => some <$> schema d

def itemsFrom (schema : Schema α) (n : Nat) : List Data → List (Verdict α)
  | [] => []
  | d :: ds => (schema d).within (.index n) :: itemsFrom schema (n + 1) ds

/-- A list, or the items of a set or a pair. -/
def list (schema : Schema α) : Schema (List α)
  | .list ds | .set ds => .all (itemsFrom schema 0 ds)
  | .pair a b => .all (itemsFrom schema 0 [a, b])
  | _ => .refuse .notList

/-- The step that a key makes: a text by name, a machine integer by value, and
    anything else by its literal. -/
def keyStep : Data → Step
  | .text s => .name s
  | .int n =>
    if -0x8000000000000000 ≤ n ∧ n < 0x8000000000000000 then .index n
    else .name (Decimal.ofInt n)
  | .bool b => .index (if b then 1 else 0)
  | d => .name d.literal

def key (k : Data) : Verdict Text := ((text k).within (.name "[key]")).within (keyStep k)

/-- Entries under the texts of their keys.  Only keys that were no texts can meet. -/
def underTexts (m : Mapping) (fields : Fields α) : Fields α :=
  if m.strangeKeys.isEmpty then fields else Fields.ofList fields

/-- A mapping from texts to values of the schema. -/
def fields (schema : Schema α) : Schema (Fields α)
  | .map es =>
    underTexts es <$>
      .all (es.map fun e => Prod.mk <$> key e.1 <*> (schema e.2).within (keyStep e.1))
  | _ => .refuse .notMapping

/-! ### Models -/

def model (read : Mapping → Verdict α) : Schema α
  | .map es => read es
  | _ => .refuse .notModel

/-- A field of a model: absent it takes its default, present it is checked. -/
def field (m : Mapping) (name : Text) (default : α) (schema : Schema α) : Verdict α :=
  match m.get? name with
  | none => .accepted default
  | some d => (schema d).within (.name name)

end Schema

end WorkflowPolicy
