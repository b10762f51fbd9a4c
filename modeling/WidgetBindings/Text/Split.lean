/-!
# Splitting a text

What follows a text at the front of another, and the parts of a text between the occurrences of a
character.
-/

namespace WidgetBindings.Text

/-- What follows `word` at the front of `cs`, if it stands there. -/
def after? : (word cs : List Char) → Option (List Char)
  | [], cs => some cs
  | _ :: _, [] => none
  | w :: word, c :: cs => if w = c then after? word cs else none

/-- The parts of a text between the occurrences of a character. There is always at least one. -/
def splitOn (c : Char) : List Char → List (List Char)
  | [] => [[]]
  | d :: rest =>
    if d = c then [] :: splitOn c rest
    else match splitOn c rest with
      | [] => [[d]]
      | part :: parts => (d :: part) :: parts

end WidgetBindings.Text
