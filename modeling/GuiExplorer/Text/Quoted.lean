import GuiExplorer.Text.Invisible

/-!
# Quoted texts

A text shown in diagnostics stands in double quotes.  Quotes, backslashes and
the common control characters have short escapes; other characters without a
visible form are given by their code point.
-/

namespace GuiExplorer.Text

/-- How a character is written inside quotes. -/
def quotedChar (c : Char) : List Char :=
  if c = '"' then ['\\', '"']
  else if c = '\\' then ['\\', '\\']
  else if c = '\n' then ['\\', 'n']
  else if c = '\r' then ['\\', 'r']
  else if c = '\t' then ['\\', 't']
  else if c = '\x00' then ['\\', '0']
  else if isInvisible c then
    ['\\', 'u', '\x7b'] ++ Nat.toDigits 16 c.toNat ++ ['\x7d']
  else [c]

/-- A text in quotes. -/
def quoted (text : String) : String :=
  String.ofList ('"' :: text.toList.flatMap quotedChar ++ ['"'])

end GuiExplorer.Text
