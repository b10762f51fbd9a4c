import WidgetBindings.Json.Token

/-!
# Passing over values

A value that nobody wants is passed over without being built. Brackets that are still open are kept
on a stack, so nesting may be as deep as it likes. Less is checked than when a value is read: the
bytes of a string need not spell characters, its escapes need not pair up, and a number may have any
size.
-/

namespace WidgetBindings.Json.Skip

open Read

/-- Passes over four hexadecimal digits or an escape letter, after a backslash. -/
def escape : List UInt8 → Except Fault (List UInt8)
  | [] => .error (.before .endInString [])
  | letter :: unread =>
    if letter = 117 then (hexEscape unread).map (·.2)
    else if (escapedByte? letter).isSome then .ok unread
    else .error (.before .invalidEscape unread)

/-- Passes over a string whose opening quote has been read. At most `fuel` bytes and escapes are
read. -/
def content : (fuel : Nat) → List UInt8 → Except Fault (List UInt8)
  | 0, _ => .error (.before .endInString [])
  | _ + 1, [] => .error (.before .endInString [])
  | fuel + 1, b :: unread =>
    if b = 34 then .ok unread
    else if b = 92 then do content fuel (← escape unread)
    else if b < 32 then .error (.before .controlCharacter (b :: unread))
    else content fuel unread

def string (unread : List UInt8) : Except Fault (List UInt8) := content (unread.length + 1) unread

/-- Passes over an exponent whose mark has been read. -/
def exponent (unread : List UInt8) : Except Fault (List UInt8) :=
  let unread := if unread.head?.any fun b => b = 43 || b = 45 then unread.drop 1 else unread
  if digitNext unread then .ok (skipDigits unread)
  else .error (.before .invalidNumber (unread.drop 1))

/-- Passes over an exponent, if there is one. -/
def optionalExponent (unread : List UInt8) : Except Fault (List UInt8) :=
  if exponentNext unread then exponent (unread.drop 1) else .ok unread

/-- Passes over the digits after a point. -/
def fraction (unread : List UInt8) : Except Fault (List UInt8) :=
  if digitNext unread then optionalExponent (skipDigits unread)
  else .error (.upon .invalidNumber unread)

/-- Passes over what may follow the digits of a whole number. -/
def afterDigits (unread : List UInt8) : Except Fault (List UInt8) :=
  if unread.head? = some 46 then fraction (unread.drop 1) else optionalExponent unread

def number : List UInt8 → Except Fault (List UInt8)
  | [] => .error (.before .invalidNumber [])
  | b :: unread =>
    if b = 48 then
      if digitNext unread then .error (.upon .invalidNumber unread) else afterDigits unread
    else if isDigit b then afterDigits (skipDigits unread)
    else .error (.before .invalidNumber unread)

inductive Bracket
  | list
  | object
  deriving DecidableEq

namespace Bracket

/-- The container that a byte opens. -/
def opening? (b : UInt8) : Option Bracket :=
  if b = 91 then some list else if b = 123 then some object else none

def closing : Bracket → UInt8
  | list => 93
  | object => 125

/-- What is missing when the text ends inside a container. -/
def endCause : Bracket → Cause
  | list => .endInList
  | object => .endInObject

/-- What is missing when neither a comma nor the closing bracket follows a value. -/
def separatorCause : Bracket → Cause
  | list => .expectedListEnd
  | object => .expectedObjectEnd

end Bracket

/-- Passes over a value that holds no further ones and starts with `b`. -/
def scalar (b : UInt8) (unread : List UInt8) : Except Fault (List UInt8) :=
  if b = 110 then wordNull unread
  else if b = 116 then wordTrue unread
  else if b = 102 then wordFalse unread
  else if b = 45 then number unread
  else if isDigit b then number (b :: unread)
  else if b = 34 then string unread
  else .error (.upon .expectedValue (b :: unread))

def key (unread : List UInt8) : Except Fault (List UInt8) :=
  match skipBlanks unread with
  | [] => .error (.upon .endInObject [])
  | b :: rest =>
    if b = 34 then do
      match skipBlanks (← string rest) with
      | [] => .error (.upon .endInObject [])
      | b :: rest => if b = 58 then .ok rest else .error (.upon .expectedColon (b :: rest))
    else .error (.upon .keyMustBeString (b :: rest))

/-- Goes on to the next value of a container. -/
def item : Bracket → List UInt8 → Except Fault (List UInt8)
  | .list, unread => .ok unread
  | .object, unread => key unread

/-- Closes what can be closed after a value, or after an opening bracket if `first` is set. It stops
where the next value begins, or when no bracket is open any more. -/
def settle : (stack : List Bracket) → (first : Bool) → List UInt8 →
    Except Fault (List Bracket × List UInt8)
  | [], _, unread => .ok ([], unread)
  | bracket :: outer, first, unread =>
    match skipBlanks unread with
    | [] => .error (.upon bracket.endCause [])
    | b :: rest =>
      if b = bracket.closing then settle outer false rest
      else if first then do .ok (bracket :: outer, ← item bracket (b :: rest))
      else if b = 44 then do .ok (bracket :: outer, ← item bracket rest)
      else .error (.upon bracket.separatorCause (b :: rest))

/-- Passes over a value, and over all that follows up to the end of the outermost container in
`stack`. At most `fuel` values are begun. -/
def within : (fuel : Nat) → (stack : List Bracket) → List UInt8 → Except Fault (List UInt8)
  | 0, _, unread => .error (.upon .endInValue unread)
  | fuel + 1, stack, unread =>
    match skipBlanks unread with
    | [] => .error (.upon .endInValue [])
    | b :: rest => do
      let (stack, unread) ←
        match Bracket.opening? b with
        | some bracket => settle (bracket :: stack) true rest
        | none => do settle stack false (← scalar b rest)
      if stack.isEmpty then .ok unread else within fuel stack unread

def value (unread : List UInt8) : Except Fault (List UInt8) := within (unread.length + 1) [] unread

end WidgetBindings.Json.Skip
