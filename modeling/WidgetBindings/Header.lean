import WidgetBindings.Declaration
import WidgetBindings.Program
import WidgetBindings.Text.Bytes

/-!
# Reading the header

The header is read as a whole and has to be text.
-/

namespace WidgetBindings

/-- Why a header could not be read. -/
structure HeaderError where
  path : String
  failure : Failure
  deriving DecidableEq, Repr

def HeaderError.message (e : HeaderError) : String :=
  s!"failed to read header {e.path}: {e.failure.message}"

namespace Header

/-- The text that the bytes of a file are. -/
def decode (path : String) : Except Failure (List UInt8) → Except HeaderError String
  | .error failure => .error ⟨path, failure⟩
  | .ok bytes =>
    match Text.ofBytes? bytes with
    | some text => .ok text
    | none => .error ⟨path, .notText⟩

def read (path : String) : Program (Except HeaderError String) := do
  pure (decode path (← Program.read path))

end Header

end WidgetBindings
