import WidgetBindings.Text.Blank
import WidgetBindings.Text.Lines
import WidgetBindings.Text.Split
import WidgetBindings.Text.WordTable

/-!
# Declarations in a header

A header declares a symbol by a line that holds `extern TYPE *name`, where `TYPE` is the object type
that the project looks for. White space may stand around the star and must stand after `extern`.
Each line declares one symbol at most, and all else in a header is passed over.

Any text can be looked for as an object type, whatever its length. A matcher that limits the size of
its patterns would refuse a type of very many characters; here it is assumed that no type comes to
such a limit.
-/

namespace WidgetBindings

/-- A symbol that a header declares, and the line on which it does, counted from one. -/
structure Declaration where
  identifier : String
  line : Nat
  deriving DecidableEq, Repr

namespace Declaration

/-- The object type that is looked for unless another is asked for. -/
def defaultObjectType : String := "lv_obj_t"

def startsIdentifier (c : Char) : Bool := c.isAlpha || c = '_'

/-- The identifier at the front of `cs`. It takes every word character that follows. -/
def identifier? : List Char → Option (List Char)
  | [] => none
  | c :: rest => if startsIdentifier c then some (c :: rest.takeWhile Text.isWord) else none

/-- The identifier that the front of `cs` declares. -/
def declaredAt? (objectType cs : List Char) : Option (List Char) := do
  let rest ← Text.after? "extern".toList cs
  guard (rest.head?.any Text.isBlank)
  let rest ← Text.after? objectType (rest.dropWhile Text.isBlank)
  let rest ← Text.after? ['*'] (rest.dropWhile Text.isBlank)
  identifier? (rest.dropWhile Text.isBlank)

/-- The first identifier declared in `cs`, when `inWord` says whether a word character stands before
it. -/
def firstDeclared? (objectType : List Char) : (inWord : Bool) → List Char → Option (List Char)
  | _, [] => none
  | inWord, c :: rest =>
    match if inWord then none else declaredAt? objectType (c :: rest) with
    | some name => some name
    | none => firstDeclared? objectType (Text.isWord c) rest

def onLine? (objectType line : List Char) : Option (List Char) :=
  firstDeclared? objectType false line

/-- The declarations of a header, in the order of their lines. White space around the object type
does not count. -/
def scan (objectType text : String) : List Declaration :=
  let wanted := Text.trimChars objectType.toList
  ((Text.lines text.toList).zipIdx 1).filterMap fun (line, number) =>
    (onLine? wanted line).map fun name => ⟨String.ofList name, number⟩

end Declaration

end WidgetBindings
