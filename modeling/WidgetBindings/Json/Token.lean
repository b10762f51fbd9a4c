import WidgetBindings.Json.Fault
import WidgetBindings.Text.Bytes

/-!
# Words, strings and numbers

The parts of a JSON text that hold no further values. Every reader takes the unread bytes and
answers with a value and the bytes after it.
-/

namespace WidgetBindings.Json.Read

/-- Space, tab, line feed or carriage return. -/
def isBlankByte (b : UInt8) : Bool := b = 32 || b = 9 || b = 10 || b = 13

/-- The unread bytes from the first that is not blank. -/
def skipBlanks (unread : List UInt8) : List UInt8 := unread.dropWhile isBlankByte

def isDigit (b : UInt8) : Bool := 48 ≤ b && b ≤ 57

def skipDigits (unread : List UInt8) : List UInt8 := unread.dropWhile isDigit

/-- Reads the rest of a word whose first letter has been read. -/
def word : (letters unread : List UInt8) → Except Fault (List UInt8)
  | [], unread => .ok unread
  | _ :: _, [] => .error (.before .endInValue [])
  | letter :: letters, b :: unread =>
    if b = letter then word letters unread else .error (.before .expectedWord unread)

def wordNull : List UInt8 → Except Fault (List UInt8) := word [117, 108, 108]

def wordTrue : List UInt8 → Except Fault (List UInt8) := word [114, 117, 101]

def wordFalse : List UInt8 → Except Fault (List UInt8) := word [97, 108, 115, 101]

/-! ## Strings -/

def hexValue? (b : UInt8) : Option Nat :=
  if isDigit b then some (b.toNat - 48)
  else if 97 ≤ b && b ≤ 102 then some (b.toNat - 87)
  else if 65 ≤ b && b ≤ 70 then some (b.toNat - 55)
  else none

def hexEscape : List UInt8 → Except Fault (Nat × List UInt8)
  | a :: b :: c :: d :: unread =>
    match hexValue? a, hexValue? b, hexValue? c, hexValue? d with
    | some a, some b, some c, some d => .ok (((a * 16 + b) * 16 + c) * 16 + d, unread)
    | _, _, _, _ => .error (.before .invalidEscape unread)
  | _ => .error (.before .endInString [])

/-- Reads the second half of a character that is written as two escapes. -/
def lowSurrogate (high : Nat) : List UInt8 → Except Fault (Nat × List UInt8)
  | [] => .error (.before .endInString [])
  | b :: unread =>
    if b ≠ 92 then .error (.before .unexpectedEndOfEscape unread)
    else match unread with
      | [] => .error (.before .endInString [])
      | b :: unread =>
        if b ≠ 117 then .error (.before .unexpectedEndOfEscape unread)
        else do
          let (low, unread) ← hexEscape unread
          if 0xDC00 ≤ low ∧ low ≤ 0xDFFF then
            .ok (0x10000 + (high - 0xD800) * 0x400 + (low - 0xDC00), unread)
          else .error (.before .loneSurrogate unread)

/-- Reads what follows `\u`: the code point of one character. -/
def codePoint (unread : List UInt8) : Except Fault (Nat × List UInt8) := do
  let (value, unread) ← hexEscape unread
  if 0xDC00 ≤ value ∧ value ≤ 0xDFFF then .error (.before .loneSurrogate unread)
  else if 0xD800 ≤ value ∧ value ≤ 0xDBFF then lowSurrogate value unread
  else .ok (value, unread)

/-- The byte that a letter after a backslash stands for. -/
def escapedByte? (letter : UInt8) : Option UInt8 :=
  if letter = 34 ∨ letter = 92 ∨ letter = 47 then some letter
  else if letter = 98 then some 8
  else if letter = 102 then some 12
  else if letter = 110 then some 10
  else if letter = 114 then some 13
  else if letter = 116 then some 9
  else none

/-- Reads what follows a backslash: the bytes it stands for. -/
def escape : List UInt8 → Except Fault (List UInt8 × List UInt8)
  | [] => .error (.before .endInString [])
  | letter :: unread =>
    if letter = 117 then do
      let (value, unread) ← codePoint unread
      .ok (Text.toBytes (String.singleton (Char.ofNat value)), unread)
    else match escapedByte? letter with
      | some b => .ok ([b], unread)
      | none => .error (.before .invalidEscape unread)

/-- Reads the bytes of a string up to its closing quote. `seen` are the bytes so far, last first. At
most `fuel` bytes and escapes are read. -/
def content : (fuel : Nat) → (seen unread : List UInt8) → Except Fault (List UInt8 × List UInt8)
  | 0, _, _ => .error (.before .endInString [])
  | _ + 1, _, [] => .error (.before .endInString [])
  | fuel + 1, seen, b :: unread =>
    if b = 34 then .ok (seen.reverse, unread)
    else if b = 92 then do
      let (bytes, unread) ← escape unread
      content fuel (bytes.reverse ++ seen) unread
    else if b < 32 then .error (.before .controlCharacter unread)
    else content fuel (b :: seen) unread

/-- Reads a string whose opening quote has been read. -/
def string (unread : List UInt8) : Except Fault (String × List UInt8) := do
  let (bytes, unread) ← content (unread.length + 1) [] unread
  match Text.ofBytes? bytes with
  | some text => .ok (text, unread)
  | none =>
    .error ⟨.invalidCodePoint, unread.length + (bytes.length - Text.validLength bytes)⟩

/-! ## Numbers -/

def digitValue (b : UInt8) : Nat := b.toNat - 48

/-- The digits of a number are read up to this number, which 64 bits do not hold. -/
def significandLimit : Nat := 0x10000000000000000

/-- The digits of an exponent are read up to this number, which 32 bits do not hold with a sign. -/
def exponentLimit : Nat := 0x80000000

/-- Reads digits into a number for as long as it stays below `limit`. The number of digits taken
comes along. -/
def digitsBelow (limit : Nat) : (value taken : Nat) → List UInt8 → Nat × Nat × List UInt8
  | value, taken, [] => (value, taken, [])
  | value, taken, b :: unread =>
    if isDigit b && value * 10 + digitValue b < limit then
      digitsBelow limit (value * 10 + digitValue b) (taken + 1) unread
    else (value, taken, b :: unread)

def digitNext (unread : List UInt8) : Bool := unread.head?.any isDigit

def exponentNext (unread : List UInt8) : Bool := unread.head?.any fun b => b = 101 || b = 69

/-- `value / 10 ^ places`, divided by `10 ^ 308` as often as it takes to bring the places down to
308, at most `fuel` times. -/
def divideByTens : (fuel : Nat) → (value : Float) → (places : Nat) → Float
  | 0, value, _ => value
  | fuel + 1, value, places =>
    if places ≤ 308 then value / Float.ofScientific 1 false places
    else if value == 0.0 then value
    else divideByTens fuel (value / Float.ofScientific 1 false 308) (places - 308)

/-- The float `significand * 10 ^ power`, rounded once for the significand and once for the power.
There is none if it would be infinite. -/
def scaled? (significand : Nat) (power : Int) : Option Float :=
  let value := (UInt64.ofNat significand).toFloat
  if power < 0 then some (divideByTens (power.natAbs / 308 + 2) value power.natAbs)
  else if power ≤ 308 then
    let value := value * Float.ofScientific 1 false power.natAbs
    if value.isInf then none else some value
  else if value == 0.0 then some value
  else none

/-- The float with the sign that the number was written with. -/
def signed (positive : Bool) (value : Float) : Number :=
  .float (if positive then value else -value).toBits

/-- The float `significand * 10 ^ power` as a reading that ends before `unread`. -/
def float (positive : Bool) (significand : Nat) (power : Int) (unread : List UInt8) :
    Except Fault (Number × List UInt8) :=
  match scaled? significand power with
  | some value => .ok (signed positive value, unread)
  | none => .error (.before .numberOutOfRange unread)

/-- Reads an exponent whose mark has been read. One that is too large for 32 bits gives zero, or no
number at all if the power is positive and the significand is not zero. -/
def exponent (positive : Bool) (significand : Nat) (power : Int) (unread : List UInt8) :
    Except Fault (Number × List UInt8) :=
  let (up, unread) := match unread with
    | b :: rest => if b = 43 then (true, rest) else if b = 45 then (false, rest) else (true, unread)
    | [] => (true, [])
  match unread with
  | [] => .error (.before .endInValue [])
  | b :: unread =>
    if isDigit b then
      let (value, _, rest) := digitsBelow exponentLimit (digitValue b) 0 unread
      if digitNext rest then
        if significand ≠ 0 ∧ up then .error (.before .numberOutOfRange (rest.drop 1))
        else .ok (signed positive 0.0, skipDigits rest)
      else float positive significand (if up then power + value else power - value) rest
    else .error (.before .invalidNumber unread)

def optionalExponent (positive : Bool) (significand : Nat) (power : Int) (unread : List UInt8) :
    Except Fault (Number × List UInt8) :=
  if exponentNext unread then exponent positive significand power (unread.drop 1)
  else float positive significand power unread

/-- Reads the digits after a point. Those that the significand has no room for are passed over. -/
def fraction (positive : Bool) (significand : Nat) (power : Int) (unread : List UInt8) :
    Except Fault (Number × List UInt8) :=
  let (value, taken, rest) := digitsBelow significandLimit significand 0 unread
  if digitNext rest then optionalExponent positive value (power - taken) (skipDigits rest)
  else if taken = 0 then
    .error (.upon (if rest.isEmpty then .endInValue else .invalidNumber) rest)
  else optionalExponent positive value (power - taken) rest

/-- The whole number with the sign that it was written with, or a float if 64 bits cannot hold it.
Zero with a sign is a float. -/
def whole (positive : Bool) (significand : Nat) : Number :=
  let value : Int := if positive then significand else -significand
  if fits : (positive ∨ value ≠ 0) ∧ Number.least ≤ value ∧ value < Number.limit then
    .integer value fits.2
  else signed positive (UInt64.ofNat significand).toFloat

/-- Reads what may follow the digits of a whole number. -/
def afterDigits (positive : Bool) (significand : Nat) (unread : List UInt8) :
    Except Fault (Number × List UInt8) :=
  if unread.head? = some 46 then fraction positive significand 0 (unread.drop 1)
  else if exponentNext unread then exponent positive significand 0 (unread.drop 1)
  else .ok (whole positive significand, unread)

/-- Reads what may follow when the significand has no room for the next digit: the digits before the
point that are left only count as powers of ten. -/
def afterFullDigits (positive : Bool) (significand : Nat) (unread : List UInt8) :
    Except Fault (Number × List UInt8) :=
  let rest := skipDigits unread
  let power := unread.length - rest.length
  if rest.head? = some 46 then fraction positive significand power (rest.drop 1)
  else optionalExponent positive significand power rest

/-- Reads a number whose sign has been read. -/
def number (positive : Bool) : List UInt8 → Except Fault (Number × List UInt8)
  | [] => .error (.before .endInValue [])
  | b :: unread =>
    if b = 48 then
      if digitNext unread then .error (.upon .invalidNumber unread)
      else afterDigits positive 0 unread
    else if isDigit b then
      let (value, _, rest) := digitsBelow significandLimit (digitValue b) 0 unread
      if digitNext rest then afterFullDigits positive value rest
      else afterDigits positive value rest
    else .error (.before .invalidNumber unread)

end WidgetBindings.Json.Read
