import GuiExplorer.Action.Basic
import GuiExplorer.Device.Error
import GuiExplorer.Wire.Message

/-!
# Carrying out actions

Every kind of action is carried out by one kind of command.  A gesture goes to
the centre of its widget, wherever that lies.
-/

namespace GuiExplorer

/-- The command that carries out an action on the app `package`. -/
def Action.command (package : String) : Action → Command
  | .reset => .launchApp package
  | .terminate => .terminate
  | .pressBack => .pressBack
  | .onWidget widget gesture =>
      let (x, y) := widget.data.bounds.center
      .perform gesture x y
  | .observe => .fetchGuiState

/-- Whether the daemon carried out an action.  Any answer but a failure will do. -/
def Response.confirm : Response → Except DaemonError Unit
  | .failure message => .error (.remote message)
  | .guiState _ => .ok ()
  | .ack => .ok ()

end GuiExplorer
