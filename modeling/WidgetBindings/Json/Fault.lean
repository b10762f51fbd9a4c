import WidgetBindings.Json.Printer
import WidgetBindings.Text.Quoted

/-!
# What can be wrong with a JSON text

The causes for which reading stops, the sentence for each, and the place that is reported: a line,
counted from one, and the number of bytes of that line up to the place.
-/

namespace WidgetBindings.Json

/-- What was found where something else was expected. -/
inductive Found
  | null
  | bool (value : Bool)
  | number (value : Number)
  | string (value : String)
  | list
  | map

def Found.words : Found → String
  | .null => "null"
  | .bool true => "boolean `true`"
  | .bool false => "boolean `false`"
  | .number (.integer value _) => s!"integer `{value}`"
  | .number (.float bits) => s!"floating point `{floatText bits}`"
  | .string value => s!"string {Text.quoted value}"
  | .list => "sequence"
  | .map => "map"

/-- Why reading stopped. -/
inductive Cause
  | expectedValue
  | expectedWord
  | expectedColon
  | expectedListEnd
  | expectedObjectEnd
  | trailingComma
  | trailingCharacters
  | keyMustBeString
  | endInValue
  | endInList
  | endInObject
  | endInString
  | invalidNumber
  | numberOutOfRange
  | invalidEscape
  | controlCharacter
  | unexpectedEndOfEscape
  | loneSurrogate
  | invalidCodePoint
  | nestedTooDeeply
  | wrongType (found : Found) (expected : String)
  | duplicateField (name : String)
  | missingField (name : String)
  | wrongLength (length : Nat) (expected : String)
  | unknownVariant (found : String) (known : List String)

def Cause.message : Cause → String
  | .expectedValue => "expected value"
  | .expectedWord => "expected ident"
  | .expectedColon => "expected `:`"
  | .expectedListEnd => "expected `,` or `]`"
  | .expectedObjectEnd => "expected `,` or `\x7d`"
  | .trailingComma => "trailing comma"
  | .trailingCharacters => "trailing characters"
  | .keyMustBeString => "key must be a string"
  | .endInValue => "EOF while parsing a value"
  | .endInList => "EOF while parsing a list"
  | .endInObject => "EOF while parsing an object"
  | .endInString => "EOF while parsing a string"
  | .invalidNumber => "invalid number"
  | .numberOutOfRange => "number out of range"
  | .invalidEscape => "invalid escape"
  | .controlCharacter => "control character (\\u0000-\\u001F) found while parsing a string"
  | .unexpectedEndOfEscape => "unexpected end of hex escape"
  | .loneSurrogate => "lone leading surrogate in hex escape"
  | .invalidCodePoint => "invalid unicode code point"
  | .nestedTooDeeply => "recursion limit exceeded"
  | .wrongType found expected => s!"invalid type: {found.words}, expected {expected}"
  | .duplicateField name => s!"duplicate field `{name}`"
  | .missingField name => s!"missing field `{name}`"
  | .wrongLength length expected => s!"invalid length {length}, expected {expected}"
  | .unknownVariant found known =>
    let names := ", ".intercalate (known.map fun name => s!"`{name}`")
    s!"unknown variant `{found}`, expected one of {names}"

/-- A cause, and how many bytes follow the place it is reported at. -/
structure Fault where
  cause : Cause
  remaining : Nat

/-- A fault just before the unread bytes. -/
def Fault.before (cause : Cause) (unread : List UInt8) : Fault := ⟨cause, unread.length⟩

/-- A fault at the first unread byte, or at the end if there is none. -/
def Fault.upon (cause : Cause) (unread : List UInt8) : Fault := ⟨cause, unread.length - 1⟩

/-- A place in a text: the line and the bytes of it that lie before. -/
structure Place where
  line : Nat
  column : Nat
  deriving DecidableEq, Repr

/-- The place after the given bytes. -/
def Place.after (passed : List UInt8) : Place :=
  ⟨1 + passed.count 10, (passed.reverse.takeWhile (· ≠ 10)).length⟩

/-- A fault as it is reported. -/
structure Complaint where
  cause : Cause
  place : Place

/-- The complaint about a text in which a fault was found. -/
def Fault.within (fault : Fault) (text : List UInt8) : Complaint :=
  ⟨fault.cause, .after (text.take (text.length - fault.remaining))⟩

def Complaint.message (c : Complaint) : String :=
  s!"{c.cause.message} at line {c.place.line} column {c.place.column}"

end WidgetBindings.Json
