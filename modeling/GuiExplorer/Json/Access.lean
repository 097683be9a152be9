import GuiExplorer.Json.Reader

/-!
# Lenient access to JSON

Reading without errors: a member that is missing, null or of the wrong shape is
taken for its default.
-/

namespace GuiExplorer.Json

/-- A member that is present and not null. -/
def given? (value : Json) (name : String) : Option Json :=
  match value with
  | .object members =>
      match members.find? (·.1 == some name) with
      | some (_, .null) => none
      | some (_, found) => some found
      | none => none
  | _ => none

/-- A member, or null. -/
def member (value : Json) (name : String) : Json :=
  (value.given? name).getD .null

/-- The items of an array. -/
def items : Json → List Json
  | .array items => items
  | _ => []

/-- The items of an array that is a member. -/
def itemsAt (value : Json) (name : String) : List Json :=
  (value.member name).items

/-- The members of an object whose keys are texts. -/
def members : Json → List (String × Json)
  | .object members => members.filterMap fun (key, item) => key.map (·, item)
  | _ => []

/-- The members of an object that are texts. -/
def textMembers (value : Json) : List (String × String) :=
  value.members.filterMap fun (name, item) => item.text?.map (name, ·)

/-- A text. -/
def text (value : Json) : String :=
  value.text?.getD ""

/-- A text that is a member. -/
def textAt (value : Json) (name : String) (default : String := "") : String :=
  ((value.given? name).bind text?).getD default

/-- A truth value that is a member. -/
def boolAt (value : Json) (name : String) (default : Bool := false) : Bool :=
  ((value.given? name).bind bool?).getD default

/-- An integer. -/
def integer : Json → Int
  | .int value => value
  | _ => 0

/-- A natural number. -/
def nat (value : Json) : Nat :=
  value.integer.toNat

/-- A natural number that is a member. -/
def natAt (value : Json) (name : String) (default : Nat := 0) : Nat :=
  ((value.given? name).map nat).getD default

end GuiExplorer.Json
