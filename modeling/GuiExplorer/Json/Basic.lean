import GuiExplorer.Json.Token

/-!
# JSON values

A value keeps the members of an object in the order written, duplicates
included, since a reader of records treats a repeated field as an error.
Building a value from tokens uses a stack of the containers begun so far, so
the depth of a value is not limited.
-/

namespace GuiExplorer

/-- A JSON value. -/
inductive Json where
  | null
  | bool (value : Bool)
  | int (value : Int)
  /-- A number that is not written as an integer. -/
  | real (literal : String)
  /-- A string; without content if an escape in it is an unpaired surrogate. -/
  | string (content : Option String)
  | array (items : List Json)
  | object (members : List (Option String × Json))
deriving Repr, Inhabited

namespace Json

/-- A string value. -/
def str (text : String) : Json :=
  .string (some text)

/-- An object with the given members. -/
def record (members : List (String × Json)) : Json :=
  .object (members.map fun (name, value) => (some name, value))

/-- A container that is not complete yet; what it holds so far is in reverse. -/
inductive Frame where
  | array (before : List Json)
  /-- `key` belongs to the value that comes next. -/
  | object (before : List (Option String × Json)) (key : Option String)

/-- What may come next. -/
inductive Stage where
  | value
  | firstItem
  | firstKey
  | nextKey
  | colon
  /-- A comma or the end of the innermost container. -/
  | separator
  | finished (value : Json)

/-- A value under construction: the containers begun, innermost first. -/
structure Builder where
  frames : List Frame
  stage : Stage

namespace Builder

/-- Nothing has been read. -/
def start : Builder :=
  ⟨[], .value⟩

/-- A complete value goes into the innermost container, or is the result. -/
def push (value : Json) : List Frame → Builder
  | [] => ⟨[], .finished value⟩
  | .array before :: frames => ⟨.array (value :: before) :: frames, .separator⟩
  | .object before key :: frames => ⟨.object ((key, value) :: before) key :: frames, .separator⟩

/-- Close an array. -/
def closeArray : List Frame → Option Builder
  | .array before :: frames => some (push (.array before.reverse) frames)
  | _ => none

/-- Close an object. -/
def closeObject : List Frame → Option Builder
  | .object before _ :: frames => some (push (.object before.reverse) frames)
  | _ => none

/-- A token where a value must stand. -/
def valueToken (frames : List Frame) : Token → Option Builder
  | .null => some (push .null frames)
  | .bool value => some (push (.bool value) frames)
  | .int value => some (push (.int value) frames)
  | .real literal => some (push (.real literal) frames)
  | .string content => some (push (.string content) frames)
  | .openArray => some ⟨.array [] :: frames, .firstItem⟩
  | .openObject => some ⟨.object [] none :: frames, .firstKey⟩
  | _ => none

/-- A token where a key must stand. -/
def keyToken : List Frame → Token → Option Builder
  | .object before _ :: frames, .string content => some ⟨.object before content :: frames, .colon⟩
  | _, _ => none

/-- Go on with one more token. -/
def step (builder : Builder) (token : Token) : Option Builder :=
  match builder.stage with
  | .value => valueToken builder.frames token
  | .firstItem =>
      match token with
      | .closeArray => closeArray builder.frames
      | _ => valueToken builder.frames token
  | .firstKey =>
      match token with
      | .closeObject => closeObject builder.frames
      | _ => keyToken builder.frames token
  | .nextKey => keyToken builder.frames token
  | .colon =>
      match token with
      | .colon => some ⟨builder.frames, .value⟩
      | _ => none
  | .separator =>
      match token, builder.frames with
      | .comma, .array _ :: _ => some ⟨builder.frames, .value⟩
      | .comma, .object _ _ :: _ => some ⟨builder.frames, .nextKey⟩
      | .closeArray, _ => closeArray builder.frames
      | .closeObject, _ => closeObject builder.frames
      | _, _ => none
  | .finished _ => none

/-- Go on with a list of tokens. -/
def run (builder : Builder) : List Token → Option Builder
  | [] => some builder
  | token :: rest =>
      match builder.step token with
      | some next => run next rest
      | none => none

end Builder

/-- The value written by a list of tokens. -/
def ofTokens? (tokens : List Token) : Option Json :=
  match Builder.start.run tokens with
  | some ⟨_, .finished value⟩ => some value
  | _ => none

/-- The value written by a text. -/
def ofChars? (text : List Char) : Option Json :=
  match Token.scan [] text with
  | some tokens => ofTokens? tokens
  | none => none

/-- `ofChars?` on strings. -/
def ofText? (text : String) : Option Json :=
  ofChars? text.toList

end Json

end GuiExplorer
