import WidgetBindings.Text.Quoted

/-!
# Refusals

Why a binding, a field or a prefix was turned down, and the sentence that tells the operator.
-/

namespace WidgetBindings

/-- Why an operation on bindings was turned down. -/
inductive Refusal
  | unknownControlType (tag : String)
  | unknownEvent (tag : String)
  | unknownField (name : String)
  /-- The name is that of the identifier, which never changes. -/
  | immutableField (name : String)
  /-- The value is not one that the field takes. -/
  | invalidValue (field value : String)
  /-- A classification prefix has to have three characters. -/
  | invalidPrefix (text : String)
  | duplicateIdentifier (identifier : String)
  | unknownIdentifier (identifier : String)
  deriving DecidableEq, Repr

def Refusal.message : Refusal → String
  | .unknownControlType tag => s!"unknown control type tag: {tag}"
  | .unknownEvent tag => s!"unknown event tag: {tag}"
  | .unknownField name => s!"unknown field: {name}"
  | .immutableField name => s!"field {name} cannot be edited"
  | .invalidValue field value => s!"invalid value {Text.quoted value} for field {field}"
  | .invalidPrefix text => s!"prefix {Text.quoted text} must be exactly three characters"
  | .duplicateIdentifier identifier => s!"identifier {identifier} is already present"
  | .unknownIdentifier identifier => s!"identifier {identifier} is not present"

end WidgetBindings
