import WidgetBindings.Text.Split
import WidgetBindings.Text.Width

/-!
# Wrapping a line of a table

A line that is wider than its column is broken at spaces. A word that is wider than the column is
cut, and its first part fills up the line before, if more than two columns are free there. A line
with two columns or fewer to spare is not added to.
-/

namespace WidgetBindings.Table

/-- A line is not added to when no more than this many columns are free. -/
def leastFree : Nat := 2

/-- The characters from the front that fit into `room` columns, and the rest. -/
def cut (room : Nat) : List Char → List Char × List Char
  | [] => ([], [])
  | c :: rest =>
    if Text.charWidth c ≤ room then
      let (taken, left) := cut (room - Text.charWidth c) rest
      (c :: taken, left)
    else ([], c :: rest)

/-- A line with a word added, after a space unless it is the first. -/
def addWord (line word : List Char) : List Char :=
  if line.isEmpty then word else line ++ ' ' :: word

/-- The lines that follow once `line` has been added to: it is ended if it is full. -/
def endIfFull (width : Nat) (line : List Char) (more : List Char → List (List Char)) :
    List (List Char) :=
  if width - leastFree < Text.width line then line :: more [] else more line

/-- The lines into which words are put, the first of them begun with `line`. At most `fuel` steps
are made. -/
def fill (width : Nat) : (fuel : Nat) → (line : List Char) → List (List Char) → List (List Char)
  | 0, line, _ => [line]
  | _ + 1, line, [] => if line.isEmpty then [] else [line]
  | fuel + 1, line, word :: words =>
    let gap := if line.isEmpty then 0 else 1
    let room := width - Text.width line - gap
    if Text.width line + Text.width word + gap ≤ width then
      endIfFull width (addWord line word) fun line => fill width fuel line words
    else if ¬line.isEmpty ∧ room ≤ leastFree then
      line :: fill width fuel [] (word :: words)
    else if width < Text.width word then
      let (taken, left) := cut room word
      addWord line taken :: fill width fuel [] (left :: words)
    else line :: endIfFull width word fun line => fill width fuel line words

/-- The lines into which a line is broken, if it is wider than `width`. -/
def wrap (width : Nat) (line : List Char) : List (List Char) :=
  if Text.width line ≤ width then [line]
  else fill width (4 * line.length + 4) [] (Text.splitOn ' ' line)

end WidgetBindings.Table
