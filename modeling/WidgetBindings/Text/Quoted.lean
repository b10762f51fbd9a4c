import WidgetBindings.Text.HiddenTable

/-!
# Quoted text

Text shown between double quotes so that every character of it can be told: a quote and a backslash
get a backslash, four controls have a letter, and a character that does not show by itself is named
by its code point.
-/

namespace WidgetBindings.Text

/-- How one character stands inside the quotes. -/
def quotedChar (c : Char) : List Char :=
  if c = '"' then ['\\', '"']
  else if c = '\\' then ['\\', '\\']
  else if c = '\x00' then ['\\', '0']
  else if c = '\t' then ['\\', 't']
  else if c = '\n' then ['\\', 'n']
  else if c = '\r' then ['\\', 'r']
  else if isHidden c then ['\\', 'u', '\x7b'] ++ Nat.toDigits 16 c.toNat ++ ['\x7d']
  else [c]

/-- A text between double quotes, every character of it visible. -/
def quoted (s : String) : String :=
  "\"" ++ String.ofList (s.toList.flatMap quotedChar) ++ "\""

end WidgetBindings.Text
