import GuiExplorer.Text.Blank

/-!
# Statement records

An instrumented app logs each executed statement on a line of its own.
-/

namespace GuiExplorer

/-- One executed statement as reported by the device. -/
structure StatementRecord where
  timestamp : String
  id : String
deriving DecidableEq, Repr

namespace StatementRecord

/-- Read a line: the statement id, a semicolon and the timestamp, with blanks
around each of them. -/
def ofLine? (line : String) : Option StatementRecord :=
  (Text.splitOnce ';' (Text.trim line.toList)).map fun (id, timestamp) =>
    ⟨String.ofList (Text.trim timestamp), String.ofList (Text.trim id)⟩

end StatementRecord

end GuiExplorer
