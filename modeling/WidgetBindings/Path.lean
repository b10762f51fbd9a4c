/-!
# Paths

A path is a text of names with slashes between them. Nothing is made shorter when paths are put
together; only the last name is looked for past slashes and single dots at the end, which do not
count.
-/

namespace WidgetBindings.Path

/-- A path below a directory. A path from the root stands for itself, and the empty directory adds
nothing. -/
def join (directory path : String) : String :=
  if path.toList.head? = some '/' ∨ directory = "" then path
  else if directory.toList.getLast? = some '/' then directory ++ path
  else directory ++ "/" ++ path

/-- The characters of a path, last first, without the slashes and single dots at its end. The slash
of the root stays, and so does a dot that is the whole path. -/
def trimEnd : List Char → List Char
  | '/' :: c :: rest => trimEnd (c :: rest)
  | '.' :: '/' :: rest => trimEnd ('/' :: rest)
  | cs => cs

/-- The last component of a path and the path before it, both last character first. A path that is
empty or the root has none. -/
def splitLast? (path : String) : Option (List Char × List Char) :=
  match trimEnd path.toList.reverse with
  | [] => none
  | ['/'] => none
  | cs => some (cs.takeWhile (· ≠ '/'), trimEnd (cs.dropWhile (· ≠ '/')))

/-- The last name of a path. A dot or two dots are no name. -/
def fileName? (path : String) : Option String :=
  match splitLast? path with
  | none => none
  | some (name, _) =>
    if name = ['.'] ∨ name = ['.', '.'] then none else some (String.ofList name.reverse)

/-- The path before the last component. -/
def parent? (path : String) : Option String :=
  (splitLast? path).map fun s => String.ofList s.2.reverse

/-- The path with another name in place of the last one, or with the name added if it has none. -/
def withFileName (path name : String) : String :=
  match fileName? path with
  | some _ => join ((parent? path).getD "") name
  | none => join path name

/-- The path at which a file is prepared before it takes its place. It lies in the same directory.
-/
def temporary (path : String) : String :=
  withFileName path ((fileName? path).getD "uibind" ++ ".tmp")

end WidgetBindings.Path
