import WidgetBindings.Decimal.Shortest
import WidgetBindings.Json.Basic

/-!
# Printing JSON

The text of a value, on one line (`compact`) or spread over lines with two spaces for each level
(`pretty`).
-/

namespace WidgetBindings.Json

def hexDigit (n : Nat) : Char := if n < 10 then Char.ofNat (48 + n) else Char.ofNat (87 + n)

/-- How one character stands inside a string. -/
def escapedChar (c : Char) : List Char :=
  if c = '"' then ['\\', '"']
  else if c = '\\' then ['\\', '\\']
  else if c = '\x08' then ['\\', 'b']
  else if c = '\x0c' then ['\\', 'f']
  else if c = '\n' then ['\\', 'n']
  else if c = '\r' then ['\\', 'r']
  else if c = '\t' then ['\\', 't']
  else if c.toNat < 32 then ['\\', 'u', '0', '0', hexDigit (c.toNat / 16), hexDigit (c.toNat % 16)]
  else [c]

def stringText (s : String) : String :=
  "\"" ++ String.ofList (s.toList.flatMap escapedChar) ++ "\""

/-- The text of a positive float, from its shortest decimal. The plain form serves from a
hundred-thousandth up to below ten quadrillions, and always has a point. -/
def decimalText (d : Decimal.Scaled) : String :=
  let digits := Nat.toDigits 10 d.digits
  let power : Int := d.exponent + digits.length - 1
  let zeros (n : Int) : List Char := List.replicate n.toNat '0'
  String.ofList <|
    if power < -5 ∨ 15 < power then
      let tail := digits.drop 1
      digits.take 1 ++ (if tail.isEmpty then [] else '.' :: tail) ++
        ['e', if power < 0 then '-' else '+'] ++ Nat.toDigits 10 power.natAbs
    else if power < 0 then ['0', '.'] ++ zeros (-power - 1) ++ digits
    else if 0 ≤ d.exponent then digits ++ zeros d.exponent ++ ['.', '0']
    else digits.take (power.toNat + 1) ++ ['.'] ++ digits.drop (power.toNat + 1)

/-- The text of the float with the given bits. -/
def floatText (bits : UInt64) : String :=
  (if Decimal.signBit ≤ bits.toNat then "-" else "") ++ decimalText (Decimal.shortest bits)

def numberText : Number → String
  | .integer value _ => toString value
  | .float bits => floatText bits

mutual

/-- The text of a value on one line, without blanks. -/
def compact : Json → String
  | .null => "null"
  | .bool value => if value then "true" else "false"
  | .number value => numberText value
  | .string value => stringText value
  | .array items => "[" ++ compactItems items ++ "]"
  | .object members => "\x7b" ++ compactMembers members ++ "\x7d"

/-- The texts of items with commas between them. -/
def compactItems : List Json → String
  | [] => ""
  | [item] => compact item
  | item :: rest => compact item ++ "," ++ compactItems rest

def compactMembers : List (String × Json) → String
  | [] => ""
  | [(key, value)] => stringText key ++ ":" ++ compact value
  | (key, value) :: rest => stringText key ++ ":" ++ compact value ++ "," ++ compactMembers rest

end

/-- A line break and the indentation of a level. -/
def newLine (level : Nat) : String := String.ofList ('\n' :: List.replicate (2 * level) ' ')

mutual

/-- The text of a value that stands at a level, spread over lines. -/
def prettyAt (level : Nat) : Json → String
  | .null => "null"
  | .bool value => if value then "true" else "false"
  | .number value => numberText value
  | .string value => stringText value
  | .array [] => "[]"
  | .array (item :: rest) => "[" ++ prettyItems (level + 1) (item :: rest) ++ newLine level ++ "]"
  | .object [] => "\x7b\x7d"
  | .object (member :: rest) =>
    "\x7b" ++ prettyMembers (level + 1) (member :: rest) ++ newLine level ++ "\x7d"

/-- The texts of items, each on lines of its own. -/
def prettyItems (level : Nat) : List Json → String
  | [] => ""
  | [item] => newLine level ++ prettyAt level item
  | item :: rest => newLine level ++ prettyAt level item ++ "," ++ prettyItems level rest

def prettyMembers (level : Nat) : List (String × Json) → String
  | [] => ""
  | [(key, value)] => newLine level ++ stringText key ++ ": " ++ prettyAt level value
  | (key, value) :: rest =>
    newLine level ++ stringText key ++ ": " ++ prettyAt level value ++ "," ++
      prettyMembers level rest

end

/-- The text of a value spread over lines. -/
def pretty (value : Json) : String := prettyAt 0 value

end WidgetBindings.Json
