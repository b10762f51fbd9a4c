import WidgetBindings.Tag
import WidgetBindings.Refusal
import WidgetBindings.Text.Blank

/-!
# Entries and their fields

An entry is the binding of one declared symbol. Its identifier is fixed; the six other components
are its fields, and an edit sets one of them. Edits are made from what an operator types
(`Edit.parse`) or from a flat value as documents hold it (`Edit.ofValue`).
-/

namespace WidgetBindings

/-- The kind of widget and the event that a symbol gets by default. -/
structure Mapping where
  controlType : ControlType
  event : EventCode
  deriving DecidableEq, Repr

/-- The defaults of a symbol that is accepted although its prefix is unknown. -/
def Mapping.fallback : Mapping := ⟨.label, .valueChanged⟩

/-- A component of an entry that can be edited. -/
inductive Field
  | displayName | controlType | event | consume | produce | group
  deriving DecidableEq, Repr

namespace Field

/-- Every field, in the order in which documents list them. -/
def all : List Field := [displayName, controlType, consume, produce, event, group]

/-- The short name of a field, which ends its keys in documents. It holds no underscore. -/
def suffix : Field → String
  | displayName => "name"
  | controlType => "type"
  | event => "event"
  | consume => "con"
  | produce => "pro"
  | group => "grp"

/-- Whether the field is on or off, and not a text. -/
def isFlag : Field → Bool
  | consume | produce | group => true
  | displayName | controlType | event => false

/-- The field that goes by a name: its short name, its long name, or the older short name of the
event. -/
def ofName (name : String) : Except Refusal Field :=
  if name = "name" ∨ name = "display_name" then .ok displayName
  else if name = "type" ∨ name = "control_type" then .ok controlType
  else if name = "event" ∨ name = "evt" then .ok event
  else if name = "con" ∨ name = "consume" then .ok consume
  else if name = "pro" ∨ name = "produce" then .ok produce
  else if name = "grp" ∨ name = "group" then .ok group
  else if name = "identifier" ∨ name = "id" then .error (.immutableField name)
  else .error (.unknownField name)

end Field

/-- The value of a field in the flat form that documents hold. -/
inductive FieldValue
  | text (value : String)
  | flag (value : Bool)
  deriving DecidableEq, Repr

/-- A new value for one field. -/
inductive Edit
  | displayName (value : String)
  | controlType (value : ControlType)
  | event (value : EventCode)
  | consume (value : Bool)
  | produce (value : Bool)
  | group (value : Bool)
  deriving DecidableEq, Repr

def flagWord (flag : Bool) : String := if flag then "true" else "false"

/-- The flag that an operator's word stands for. Case does not count for letters of the basic
alphabet, nor does white space around the word. -/
def parseFlag? (text : String) : Option Bool :=
  let word := String.ofList ((Text.trimChars text.toList).map Char.toLower)
  if word ∈ ["true", "1", "yes", "on"] then some true
  else if word ∈ ["false", "0", "no", "off"] then some false
  else none

namespace Edit

def field : Edit → Field
  | displayName _ => .displayName
  | controlType _ => .controlType
  | event _ => .event
  | consume _ => .consume
  | produce _ => .produce
  | group _ => .group

/-- The edit that an operator's text asks for. -/
def parse (field : Field) (text : String) : Except Refusal Edit :=
  match field with
  | .displayName => .ok (displayName text)
  | .controlType =>
    match ControlType.ofTag? text with
    | some t => .ok (controlType t)
    | none => .error (.unknownControlType text)
  | .event =>
    match EventCode.ofTag? text with
    | some e => .ok (event e)
    | none => .error (.unknownEvent text)
  | .consume => parseFlag .consume text consume
  | .produce => parseFlag .produce text produce
  | .group => parseFlag .group text group
where
  /-- The edit of a flag field, if the text is a word for a flag. -/
  parseFlag (field : Field) (text : String) (make : Bool → Edit) : Except Refusal Edit :=
    match parseFlag? text with
    | some flag => .ok (make flag)
    | none => .error (.invalidValue field.suffix text)

/-- The edit that a flat value asks for. Flags have to be flags, and the other fields texts. -/
def ofValue (field : Field) : FieldValue → Except Refusal Edit
  | .flag flag =>
    match field with
    | .consume => .ok (consume flag)
    | .produce => .ok (produce flag)
    | .group => .ok (group flag)
    | .displayName | .controlType | .event => .error (.invalidValue field.suffix (flagWord flag))
  | .text text =>
    if field.isFlag then .error (.invalidValue field.suffix text) else parse field text

end Edit

/-- The binding of one declared symbol. -/
structure Entry where
  identifier : String
  displayName : String
  controlType : ControlType
  event : EventCode
  produce : Bool
  consume : Bool
  group : Bool
  deriving DecidableEq, Repr

namespace Entry

/-- An entry with the given defaults and every flag off. -/
def ofMapping (identifier displayName : String) (mapping : Mapping) : Entry where
  identifier := identifier
  displayName := displayName
  controlType := mapping.controlType
  event := mapping.event
  produce := false
  consume := false
  group := false

def apply (entry : Entry) : Edit → Entry
  | .displayName value => { entry with displayName := value }
  | .controlType value => { entry with controlType := value }
  | .event value => { entry with event := value }
  | .consume value => { entry with consume := value }
  | .produce value => { entry with produce := value }
  | .group value => { entry with group := value }

def value (entry : Entry) : Field → FieldValue
  | .displayName => .text entry.displayName
  | .controlType => .text entry.controlType.tag
  | .event => .text entry.event.tag
  | .consume => .flag entry.consume
  | .produce => .flag entry.produce
  | .group => .flag entry.group

@[simp] theorem identifier_apply (entry : Entry) (edit : Edit) :
    (entry.apply edit).identifier = entry.identifier := by
  cases edit <;> rfl

end Entry

end WidgetBindings
