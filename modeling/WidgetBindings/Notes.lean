/-!
# Notes

What the operator is told about a scan or a load, in the order in which it came up. Notes are only
ever added, and shown one after the other.
-/

namespace WidgetBindings

/-- The notes of a session, oldest first. -/
structure Notes where
  lines : List String
  deriving DecidableEq, Repr

namespace Notes

def empty : Notes := ⟨[]⟩

/-- The notes with further ones after them. -/
def append (notes : Notes) (more : List String) : Notes := ⟨notes.lines ++ more⟩

def size (notes : Notes) : Nat := notes.lines.length

/-- Every note, each followed by a line feed. -/
def display (notes : Notes) : String := String.join (notes.lines.map (· ++ "\n"))

end Notes

end WidgetBindings
