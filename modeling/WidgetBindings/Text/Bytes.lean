/-!
# Text as bytes

Texts are stored in UTF-8. Reading bytes as text succeeds only if all of them are well-formed; where
they are not, `validLength` says how far they are.
-/

namespace WidgetBindings.Text

def toBytes (s : String) : List UInt8 := s.toUTF8.data.toList

/-- The text that the bytes spell, if they are well-formed. -/
def ofBytes? (bytes : List UInt8) : Option String := String.fromUTF8? ⟨bytes.toArray⟩

/-- The number of bytes of the character at the front, zero if there is none. -/
def frontLength (bytes : List UInt8) : Nat :=
  match ByteArray.utf8DecodeChar? ⟨(bytes.take 4).toArray⟩ 0 with
  | some c => c.utf8Size
  | none => 0

/-- The number of bytes, from the front, up to the first that is not part of a well-formed
character. At most `fuel` characters are looked at. -/
def validLengthWithin : Nat → List UInt8 → Nat
  | 0, _ => 0
  | fuel + 1, bytes =>
    match frontLength bytes with
    | 0 => 0
    | n => n + validLengthWithin fuel (bytes.drop n)

/-- The number of bytes, from the front, that spell characters. -/
def validLength (bytes : List UInt8) : Nat := validLengthWithin bytes.length bytes

end WidgetBindings.Text
