import Multiplexer.Json.Value

/-!
# Reading values of a known shape

A structure is an object with its fields by name, or an array with its fields
in order. Unknown fields are passed over, a known one may stand only once. A
tagged choice holds its tag among the fields; to find it the whole value is
kept first, so all of it must be sound and not too deep, and inside a kept value
a few more spellings are read.
-/

namespace Multiplexer

namespace Json

/-- An integer literal below a limit. -/
def natBelow (limit : Nat) (j : Json) : Option Nat := do
  let n ← j.nat?
  if n < limit then some n else none

def float? : Json → Option Binary64
  | .number n => n.float?
  | _ => none

/-- `null` or a value. -/
def orNull {α : Type} (read : Json → Option α) : Json → Option (Option α)
  | .null => some none
  | j => (read j).map some

def listOf {α : Type} (read : Json → Option α) (j : Json) : Option (List α) := do
  (← j.items?).mapM read

/-- Whether a value stands in the text itself or in a value that was kept. -/
inductive Source where
  | text
  | kept
  deriving DecidableEq

/-- A value that carries nothing: `null`, and in a kept value also an empty object. -/
def isEmpty (source : Source) : Json → Bool
  | .null => true
  | .object [] => source = .kept
  | _ => false

/-- One of some names, alone or as the only field of an object without content. -/
def nameOf {α : Type} (source : Source) (names : List (String × α)) : Json → Option α
  | .string (some s) => names.lookup s
  | .object [(some s, j)] => if j.isEmpty source then names.lookup s else none
  | _ => none

/-- Fields of a structure, by name or in the order of the structure. -/
inductive Fields where
  | named (fields : List (String × Json))
  | listed (fields : List (String × Json))

/-- Whether no name of the list stands twice among the fields. -/
def once (names : List String) (fields : List (String × Json)) : Bool :=
  names.all fun n => fields.countP (fun f => f.1 == n) ≤ 1

def namedFields (fields : List (Option String × Json)) : Option (List (String × Json)) :=
  fields.mapM fun (k, j) => k.map (·, j)

/-- The fields of a structure that has exactly the given ones, in this order. -/
def fields? (names : List String) : Json → Option Fields
  | .object fields => do
    let fields ← namedFields fields
    if once names fields then some (.named fields) else none
  | .array items => if items.length ≤ names.length then some (.listed (names.zip items)) else none
  | _ => none

namespace Fields

def find? (name : String) : Fields → Option Json
  | .named fields => fields.lookup name
  | .listed fields => fields.lookup name

def required {α : Type} (f : Fields) (name : String) (read : Json → Option α) : Option α := do
  read (← f.find? name)

def orDefault {α : Type} (f : Fields) (name : String) (value : α) (read : Json → Option α) :
    Option α :=
  match f.find? name with
  | some j => read j
  | none => some value

/-- A field that may be `null`, and may be missing where fields have names. -/
def optional {α : Type} (f : Fields) (name : String) (read : Json → Option α) :
    Option (Option α) :=
  match f.find? name, f with
  | some j, _ => j.orNull read
  | none, .named _ => some none
  | none, .listed _ => none

end Fields

/-- Greatest number of levels in a value that is kept. -/
def greatestDepth : Nat := 127

/-- Whether a value inside `level` others may be kept as a whole. -/
def keepable (level : Nat) (j : Json) : Bool := j.sound && level + j.depth ≤ greatestDepth

/-- A tag: a name, and in a kept value also its place among the names. -/
def tagOf {α : Type} (source : Source) (tags : List (String × α)) : Json → Option α
  | .string (some s) => tags.lookup s
  | .number n =>
    if source = .kept then (n.nat?).bind fun i => tags[i]?.map (·.2) else none
  | _ => none

/-- A tagged choice: its tag, which is a field or the first item, and the rest. -/
def tagged? {α : Type} (source : Source) (tag : String) (tags : List (String × α)) :
    Json → Option (α × Json)
  | .object fields => do
    let mine := fun f : Option String × Json => f.1 == some tag
    match fields.filter mine with
    | [(_, t)] => some (← tagOf source tags t, .object (fields.filter fun f => !mine f))
    | _ => none
  | .array (t :: items) => do some (← tagOf source tags t, .array items)
  | _ => none

/-- What is left of a choice without content. -/
def nothingLeft : Json → Bool
  | .object _ => true
  | .array items => items.isEmpty
  | _ => false

end Json

end Multiplexer
