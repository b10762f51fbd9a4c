import WidgetBindings.Declaration
import WidgetBindings.Path

/-!
# Projects

Where the header of a project lies, which symbols it is searched for, and where the document and the
source go.
-/

namespace WidgetBindings

/-- The settings of a project. -/
structure Project where
  /-- The directory of the header and of the generated files. -/
  workingDirectory : String := "."
  /-- The header, seen from the working directory. -/
  includeFile : String := "ui.h"
  /-- The name of the generated files, without what follows the dot. -/
  bindingName : String := "ui_binding"
  /-- What is taken off the front of every identifier once. -/
  constantPrefix : String := "ui_"
  /-- Whether symbols with unknown prefixes are accepted. -/
  acceptAll : Bool := false
  /-- The type of the objects that are looked for. -/
  objectType : String := Declaration.defaultObjectType
  deriving DecidableEq, Repr

namespace Project

def headerPath (project : Project) : String :=
  Path.join project.workingDirectory project.includeFile

def documentPath (project : Project) : String :=
  Path.join project.workingDirectory (project.bindingName ++ ".json")

def sourcePath (project : Project) : String :=
  Path.join project.workingDirectory (project.bindingName ++ ".cpp")

end Project

end WidgetBindings
