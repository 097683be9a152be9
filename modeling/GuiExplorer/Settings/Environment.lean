import GuiExplorer.Text.Blank
import GuiExplorer.Text.Digit

/-!
# Environments

The environment variables of a program.  Names and values are texts that end
before their first NUL, and a name ends before its first `=`; so neither can hold
these characters, and an attempt to set such a variable fails.
-/

namespace GuiExplorer

/-- The values of the environment variables that are set. -/
abbrev Environment := String → Option String

namespace Environment

/-- A variable that no environment can hold. -/
structure Unstorable where
  name : String
deriving DecidableEq, Repr

/-- Whether an environment can hold the value under the name. -/
def isStorable (name value : String) : Bool :=
  !name.isEmpty && !name.contains '=' && !name.contains '\x00' && !value.contains '\x00'

/-- Set a variable unless it is set already. -/
def supply (env : Environment) (name value : String) : Environment :=
  fun other => if other = name then some ((env name).getD value) else env other

/-- Set a variable unless it is set already.  Only a value that is to be set must be
one that can be held. -/
def supply? (env : Environment) (name value : String) : Except Unstorable Environment :=
  if (env name).isSome || isStorable name value then .ok (env.supply name value)
  else .error ⟨name⟩

/-- The environment with these variables. -/
def ofList? (pairs : List (String × String)) : Except Unstorable Environment :=
  match pairs.find? fun (name, value) => !isStorable name value with
  | some (name, _) => .error ⟨name⟩
  | none => .ok fun name => pairs.lookup name

/-- The variable as a number below `bound`. -/
def number? (env : Environment) (bound : Nat) (name : String) : Option Nat :=
  (env name).bind fun text => Text.readUnsigned bound (Text.trim text.toList)

def uint16? (env : Environment) (name : String) : Option UInt16 :=
  (env.number? UInt16.size name).map UInt16.ofNat

def uint32? (env : Environment) (name : String) : Option UInt32 :=
  (env.number? UInt32.size name).map UInt32.ofNat

def uint64? (env : Environment) (name : String) : Option UInt64 :=
  (env.number? UInt64.size name).map UInt64.ofNat

end Environment

end GuiExplorer
