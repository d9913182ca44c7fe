import DocScript.Document.Codec
import DocScript.Failure
import DocScript.Json.Reader

/-!
# Loading models

A model is loaded from the text of a file, if there is such a file.
-/

namespace DocScript

def Json.checkText {α : Type} (check : Json → Checked α) (text : String) : Checked α :=
  match Json.read? text with
  | some j => check j
  | none => .fail .invalidText

/-- The model that was found in the file of a path, if it is valid. -/
def Model.accept (path : String) : Checked Model → Except Failure Model
  | .valid m => .ok m
  | .invalid issues => .error (.unmet (.validModel path issues))

/-- The model in the file of a path, given the text of the file. -/
def Model.load (path : String) (text : Option String) : Except Failure Model :=
  match text with
  | none => .error (.unmet (.model path))
  | some text => accept path (Json.checkText ofJson text)

end DocScript
