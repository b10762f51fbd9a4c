/-!
# Lines of a text

A text is split at line feeds. A line keeps neither its line feed nor one carriage return in front
of that line feed, and a text that ends in a line feed has no further empty line.
-/

namespace WidgetBindings.Text

/-- The line whose characters are given last first, when a line feed follows it. -/
def endLine : List Char → List Char
  | '\r' :: before => before.reverse
  | before => before.reverse

/-- The lines of `cs`, when `before` are the characters of the first line already passed, last
first. -/
def linesAfter : List Char → List Char → List (List Char)
  | [], [] => []
  | before, [] => [before.reverse]
  | before, c :: rest =>
    if c = '\n' then endLine before :: linesAfter [] rest else linesAfter (c :: before) rest

/-- The lines of a text, in order. -/
def lines (cs : List Char) : List (List Char) := linesAfter [] cs

end WidgetBindings.Text
