import GuiExplorer.Json.Basic

/-!
# Reading typed data from JSON

Readers answer `none` for a value of the wrong shape.  A record may be written
as an object, whose unknown members are skipped, or as an array of its fields
in order; a choice is written as its name, or as an object that maps the name
to the data that belong to it.
-/

namespace GuiExplorer.Json

/-- A string with content. -/
def text? : Json → Option String
  | .string content => content
  | _ => none

def bool? : Json → Option Bool
  | .bool value => some value
  | _ => none

/-- An integer from zero up to, but not including, `bound`. -/
def natBelow? (bound : Nat) : Json → Option Nat
  | .int value => if 0 ≤ value ∧ value.toNat < bound then some value.toNat else none
  | _ => none

/-- A signed integer of 32 bits. -/
def int32? : Json → Option Int32
  | .int value =>
      if -2147483648 ≤ value ∧ value ≤ 2147483647 then some (Int32.ofInt value) else none
  | _ => none

def uint16? (value : Json) : Option UInt16 :=
  (value.natBelow? UInt16.size).map UInt16.ofNat

def uint32? (value : Json) : Option UInt32 :=
  (value.natBelow? UInt32.size).map UInt32.ofNat

def uint64? (value : Json) : Option UInt64 :=
  (value.natBelow? UInt64.size).map UInt64.ofNat

/-- Read every item; all of them must be readable. -/
def readAll (read : Json → Option α) : List Json → Option (List α)
  | [] => some []
  | item :: rest =>
      match read item with
      | some first => (readAll read rest).map (first :: ·)
      | none => none

/-- An array whose items are all readable. -/
def list? (read : Json → Option α) : Json → Option (List α)
  | .array items => readAll read items
  | _ => none

/-- Null, or a readable value. -/
def optional? (read : Json → Option α) : Json → Option (Option α)
  | .null => some none
  | value => (read value).map some

/-- The value of the member `name`, if there is one; refused if there are
several. -/
def member? (name : String) (members : List (Option String × Json)) : Option (Option Json) :=
  match members.filter (·.1 = some name) with
  | [] => some none
  | [(_, value)] => some (some value)
  | _ => none

/-- Find every one of `names` among the members. -/
def membersNamed (members : List (Option String × Json)) :
    List String → Option (List (Option Json))
  | [] => some []
  | name :: rest =>
      match member? name members with
      | some value => (membersNamed members rest).map (value :: ·)
      | none => none

/-- The fields of a record in the order of `names`; a field that is not given
is `none`. -/
def fields? (names : List String) : Json → Option (List (Option Json))
  | .object members =>
      if members.any (·.1.isNone) then none else membersNamed members names
  | .array items =>
      if items.length ≤ names.length then
        some (items.map some ++ List.replicate (names.length - items.length) none)
      else none
  | _ => none

/-- A field that must be given. -/
def required (read : Json → Option α) : Option Json → Option α
  | some value => read value
  | none => none

/-- A field that has a default. -/
def orDefault (default : α) (read : Json → Option α) : Option Json → Option α
  | some value => read value
  | none => some default

/-- The name of a choice and the data given with it. -/
def choice? : Json → Option (String × Option Json)
  | .string (some name) => some (name, none)
  | .object [(some name, value)] => some (name, some value)
  | _ => none

/-- Whether a choice without data of its own is written properly. -/
def isPlain : Option Json → Bool
  | none => true
  | some .null => true
  | some _ => false

end GuiExplorer.Json
