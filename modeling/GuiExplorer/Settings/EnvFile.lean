import GuiExplorer.Settings.Environment
import GuiExplorer.Store.File
import GuiExplorer.Text.Alphanumeric

/-!
# Environment files

A file can supply variables that the environment leaves unset.  Each line
assigns one variable, `NAME=value`, with an optional `export` before it; a quoted
value may go on over several lines.  The lines are taken in order, and each sees
the variables that were supplied before it.  The first line that is malformed
ends the reading; what was supplied until then stays.  A value that no environment
can hold is an error, if its variable is unset.
-/

namespace GuiExplorer.EnvFile

/-- Where the reading of a line stands with regard to quotes. -/
inductive Quoting where
  | plain
  /-- After a backslash outside of quotes. -/
  | escaped
  /-- After a blank outside of quotes, where a comment may begin. -/
  | blank
  | single
  | singleEscaped
  | double
  | doubleEscaped
  | comment
deriving DecidableEq, Repr

namespace Quoting

/-- Outside of quotes, after anything but a blank. -/
def outside (c : Char) : Quoting :=
  match c with
  | '\\' => .escaped
  | '"' => .double
  | '\'' => .single
  | _ => .plain

/-- Go on by one character. -/
def step (quoting : Quoting) (c : Char) : Quoting :=
  match quoting with
  | .blank => if c = '#' then .comment else outside c
  | .plain =>
      if Text.isBlank c && c ≠ '\n' && c ≠ '\r' then .blank else outside c
  | .escaped => .plain
  | .single => if c = '\\' then .singleEscaped else if c = '\'' then .plain else .single
  | .singleEscaped => .single
  | .double => if c = '\\' then .doubleEscaped else if c = '"' then .plain else .double
  | .doubleEscaped => .double
  | .comment => .comment

end Quoting

/-- Go on to the end of a line, or to a comment.  The result has the characters
before the comment, if there is one. -/
def scan (quoting : Quoting) : List Char → Quoting × List Char
  | [] => (quoting, [])
  | c :: rest =>
      let next := quoting.step c
      if next = .comment then (.comment, [])
      else
        let (final, kept) := scan next rest
        (final, c :: kept)

/-- How far the reading of a value is. -/
inductive Mode where
  /-- In the text of the value; `quoted` between double quotes. -/
  | text (quoted : Bool)
  | escape (quoted : Bool)
  /-- Between single quotes. -/
  | literal
  /-- In the name of a variable after a dollar sign; the name is in reverse. -/
  | variable (quoted : Bool) (name : List Char)
  /-- In the name of a variable between braces. -/
  | braced (quoted : Bool) (name : List Char)
  /-- After the value, where only a comment may follow. -/
  | after
deriving DecidableEq, Repr

/-- The characters that a backslash may stand before, and what they then mean. -/
def unescape? (c : Char) : Option Char :=
  if c = 'n' then some '\n'
  else if ['\\', '\'', '"', '$', ' '].contains c then some c
  else none

/-- The value of the variable with the name, which is in reverse; in reverse. -/
def substitute (env : Environment) (name : List Char) : List Char :=
  ((env (String.ofList name.reverse)).getD "").toList.reverse

/-- Read a value after the characters `before`, which are in reverse.  A variable
name outside of braces has letters and numbers of any script. -/
def readValue (env : Environment) (mode : Mode) (before : List Char) :
    List Char → Option (List Char)
  | [] =>
      match mode with
      | .text false | .escape false | .after => some before.reverse
      | .variable false name => some (substitute env name ++ before).reverse
      | _ => none
  | c :: rest =>
      match mode with
      | .after =>
          if c = ' ' || c = '\t' then readValue env .after before rest
          else if c = '#' then some before.reverse
          else none
      | .escape quoted =>
          match unescape? c with
          | some meant => readValue env (.text quoted) (meant :: before) rest
          | none => none
      | .literal =>
          if c = '\'' then readValue env (.text false) before rest
          else readValue env .literal (c :: before) rest
      | .variable quoted name =>
          if Text.isAlphanumeric c then readValue env (.variable quoted (c :: name)) before rest
          else if c = '\x7b' && name.isEmpty then readValue env (.braced quoted []) before rest
          else
            let before := substitute env name ++ before
            if c = '$' then readValue env (.variable quoted []) before rest
            else readValue env (.text quoted) (c :: before) rest
      | .braced quoted name =>
          if c = '\x7d' then readValue env (.text quoted) (substitute env name ++ before) rest
          else readValue env (.braced quoted (c :: name)) before rest
      | .text quoted =>
          if c = '$' then readValue env (.variable quoted []) before rest
          else if c = '\\' then readValue env (.escape quoted) before rest
          else if c = '"' then readValue env (.text !quoted) before rest
          else if quoted then readValue env (.text true) (c :: before) rest
          else if c = '\'' then readValue env .literal before rest
          else if c = ' ' || c = '\t' then readValue env .after before rest
          else readValue env (.text false) (c :: before) rest

/-- What a line says. -/
inductive Line where
  | empty
  | assignment (name value : String)
  | malformed
deriving DecidableEq, Repr

/-- Read a name, and skip the blanks after it. -/
def readName? (text : List Char) : Option (String × List Char) :=
  let isNameChar (c : Char) : Bool := c.isAlphanum || c = '_' || c = '.'
  match text with
  | c :: _ =>
      if c.isAlpha || c = '_' then
        some (String.ofList (text.takeWhile isNameChar),
          Text.trimStart (text.dropWhile isNameChar))
      else none
  | [] => none

/-- Read what stands after a name. -/
def readAssigned (env : Environment) (name : String) (text : List Char) : Line :=
  match text with
  | '=' :: value =>
      match Text.trimStart value with
      | [] => .assignment name ""
      | '#' :: _ => .assignment name ""
      | value =>
          match readValue env (.text false) [] value with
          | some value => .assignment name (String.ofList value)
          | none => .malformed
  | _ => .malformed

/-- Read a line. -/
def readLine (env : Environment) (line : List Char) : Line :=
  match Text.trim line with
  | [] => .empty
  | '#' :: _ => .empty
  | text =>
      match readName? text with
      | none => .malformed
      | some (name, rest) =>
          if name = "export" && rest.head? ≠ some '=' then
            match readName? rest with
            | some (name, rest) => readAssigned env name rest
            | none => .malformed
          else readAssigned env name rest

/-- The lines of a text with their line ends. -/
def physicalLines (text : List Char) : List (List Char) :=
  match _shape : text.dropWhile (· ≠ '\n') with
  | [] => if text.isEmpty then [] else [text]
  | _ :: rest => (text.takeWhile (· ≠ '\n') ++ ['\n']) :: physicalLines rest
termination_by text.length
decreasing_by
  have shorter := (List.dropWhile_suffix (l := text) (· ≠ '\n')).length_le
  simp only [_shape, List.length_cons] at shorter
  omega

/-- A line without its line end. -/
def dropLineEnd (line : List Char) : List Char :=
  if line.getLast? = some '\n' then Text.dropReturn line.dropLast else line

/-- Take in the lines of a file.  `before` is the beginning of a value that goes on
over several lines. -/
def supplyLines (env : Environment) (quoting : Quoting) (before : List Char) :
    List (List Char) → Except Environment.Unstorable Environment
  | [] => .ok env
  | line :: rest =>
      if before.isEmpty && (Text.trimStart line).head? = some '#' then
        supplyLines env .plain [] rest
      else
        let (final, kept) := scan quoting line
        if final = .plain || final = .comment then
          let whole := before ++ (if final = .comment then kept else dropLineEnd line)
          match readLine env whole with
          | .empty => supplyLines env .plain [] rest
          | .assignment name value =>
              match env.supply? name value with
              | .ok env => supplyLines env .plain [] rest
              | .error error => .error error
          | .malformed => .ok env
        else supplyLines env final (before ++ line) rest

/-- Supply the variables that a file assigns.  A byte order mark at its front is
ignored. -/
def supplyText (env : Environment) (text : String) :
    Except Environment.Unstorable Environment :=
  let text := match text.toList with
    | '\uFEFF' :: rest => rest
    | text => text
  supplyLines env .plain [] (physicalLines text)

/-- Supply the variables that a file assigns, if there is one. -/
def supply (env : Environment) (stored : StoredFile) :
    Except Environment.Unstorable Environment :=
  match stored.text with
  | .ok text => supplyText env text
  | .error _ => .ok env

end GuiExplorer.EnvFile
