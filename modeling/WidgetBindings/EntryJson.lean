import WidgetBindings.Json.Record
import WidgetBindings.PrefixTable

/-!
# Entries and tables as JSON

How entries, their vocabularies and prefix tables are written as JSON and read back. An entry is a
record of its seven components, a table a record of its mappings. Here the members of the
vocabularies go by names of their own (`ControlType.jsonName`, `EventCode.jsonName`), which are
declared apart from their tags.
-/

namespace WidgetBindings

open Json.Read

namespace ControlType

/-- The name of a kind of widget in JSON. -/
def jsonName : ControlType → String
  | screen => "SCREEN_CT"
  | arc => "ARC_CT"
  | button => "BUTTON_CT"
  | label => "LABEL_CT"
  | textArea => "TEXTAREA_CT"
  | calendar => "CALENDAR_CT"
  | checkbox => "CHECKBOX_CT"
  | colorWheel => "COLORWHEEL_CT"
  | dropdown => "DROPDOWN_CT"
  | roller => "ROLLER_CT"
  | imageButton => "IMGBUTTON_CT"
  | keyboard => "KEYBOARD_CT"
  | slider => "SLIDER_CT"
  | switch => "SWITCH_CT"

def ofJsonName? (text : String) : Option ControlType := all.find? fun t => t.jsonName = text

def read (depth : Nat) : List UInt8 → Except Json.Fault (ControlType × List UInt8) :=
  variant depth (all.map jsonName) ofJsonName?

end ControlType

namespace EventCode

/-- The name of an event in JSON. -/
def jsonName : EventCode → String
  | pressed => "LV_EVENT_PRESSED"
  | pressing => "LV_EVENT_PRESSING"
  | pressLost => "LV_EVENT_PRESS_LOST"
  | shortClicked => "LV_EVENT_SHORT_CLICKED"
  | longPressed => "LV_EVENT_LONG_PRESSED"
  | longPressedRepeat => "LV_EVENT_LONG_PRESSED_REPEAT"
  | clicked => "LV_EVENT_CLICKED"
  | released => "LV_EVENT_RELEASED"
  | gesture => "LV_EVENT_GESTURE"
  | key => "LV_EVENT_KEY"
  | focused => "LV_EVENT_FOCUSED"
  | defocused => "LV_EVENT_DEFOCUSED"
  | leave => "LV_EVENT_LEAVE"
  | valueChanged => "LV_EVENT_VALUE_CHANGED"
  | refresh => "LV_EVENT_REFRESH"
  | delete => "LV_EVENT_DELETE"

def ofJsonName? (text : String) : Option EventCode := all.find? fun e => e.jsonName = text

def read (depth : Nat) : List UInt8 → Except Json.Fault (EventCode × List UInt8) :=
  variant depth (all.map jsonName) ofJsonName?

end EventCode

namespace Entry

def toJson (entry : Entry) : Json := .object [
  ("identifier", .string entry.identifier),
  ("display_name", .string entry.displayName),
  ("control_type", .string entry.controlType.jsonName),
  ("event", .string entry.event.jsonName),
  ("produce", .bool entry.produce),
  ("consume", .bool entry.consume),
  ("group", .bool entry.group)]

structure Draft where
  identifier : Option String := none
  displayName : Option String := none
  controlType : Option ControlType := none
  event : Option EventCode := none
  produce : Option Bool := none
  consume : Option Bool := none
  group : Option Bool := none

def readMember (depth : Nat) (draft : Draft) (key : String) (unread : List UInt8) :
    Except Trouble (Draft × List UInt8) :=
  if key = "identifier" then
    once key draft.identifier (text "a string") (fun v => { draft with identifier := some v })
      unread
  else if key = "display_name" then
    once key draft.displayName (text "a string") (fun v => { draft with displayName := some v })
      unread
  else if key = "control_type" then
    once key draft.controlType (ControlType.read depth)
      (fun v => { draft with controlType := some v }) unread
  else if key = "event" then
    once key draft.event (EventCode.read depth) (fun v => { draft with event := some v }) unread
  else if key = "produce" then
    once key draft.produce flag (fun v => { draft with produce := some v }) unread
  else if key = "consume" then
    once key draft.consume flag (fun v => { draft with consume := some v }) unread
  else if key = "group" then
    once key draft.group flag (fun v => { draft with group := some v }) unread
  else foreign draft unread

/-- The entry of which every component has been read. -/
def Draft.finish (draft : Draft) (unread : List UInt8) : Except Trouble (Entry × List UInt8) := do
  let identifier ← required "identifier" unread draft.identifier
  let displayName ← required "display_name" unread draft.displayName
  let controlType ← required "control_type" unread draft.controlType
  let event ← required "event" unread draft.event
  let produce ← required "produce" unread draft.produce
  let consume ← required "consume" unread draft.consume
  let group ← required "group" unread draft.group
  .ok (⟨identifier, displayName, controlType, event, produce, consume, group⟩, unread)

def readFields (depth : Nat) (unread : List UInt8) : Except Trouble (Entry × List UInt8) := do
  let expected := "struct BindingEntry with 7 elements"
  let (identifier, unread) ← field expected 0 (text "a string") unread
  let (displayName, unread) ← field expected 1 (text "a string") unread
  let (controlType, unread) ← field expected 2 (ControlType.read depth) unread
  let (event, unread) ← field expected 3 (EventCode.read depth) unread
  let (produce, unread) ← field expected 4 flag unread
  let (consume, unread) ← field expected 5 flag unread
  let (group, unread) ← field expected 6 flag unread
  .ok (⟨identifier, displayName, controlType, event, produce, consume, group⟩, unread)

def read (depth : Nat) : List UInt8 → Except Json.Fault (Entry × List UInt8) :=
  record "BindingEntry" depth readFields fun depth unread => do
    let (draft, unread) ← members (readMember depth) (unread.length + 1) true {} unread
    draft.finish unread

end Entry

namespace Mapping

def toJson (mapping : Mapping) : Json := .object [
  ("control_type", .string mapping.controlType.jsonName),
  ("event", .string mapping.event.jsonName)]

structure Draft where
  controlType : Option ControlType := none
  event : Option EventCode := none

def readMember (depth : Nat) (draft : Draft) (key : String) (unread : List UInt8) :
    Except Trouble (Draft × List UInt8) :=
  if key = "control_type" then
    once key draft.controlType (ControlType.read depth)
      (fun v => { draft with controlType := some v }) unread
  else if key = "event" then
    once key draft.event (EventCode.read depth) (fun v => { draft with event := some v }) unread
  else foreign draft unread

/-- The mapping of which both components have been read. -/
def Draft.finish (draft : Draft) (unread : List UInt8) :
    Except Trouble (Mapping × List UInt8) := do
  let controlType ← required "control_type" unread draft.controlType
  let event ← required "event" unread draft.event
  .ok (⟨controlType, event⟩, unread)

def readFields (depth : Nat) (unread : List UInt8) : Except Trouble (Mapping × List UInt8) := do
  let expected := "struct PrefixMapping with 2 elements"
  let (controlType, unread) ← field expected 0 (ControlType.read depth) unread
  let (event, unread) ← field expected 1 (EventCode.read depth) unread
  .ok (⟨controlType, event⟩, unread)

def read (depth : Nat) : List UInt8 → Except Json.Fault (Mapping × List UInt8) :=
  record "PrefixMapping" depth readFields fun depth unread => do
    let (draft, unread) ← members (readMember depth) (unread.length + 1) true {} unread
    draft.finish unread

end Mapping

namespace PrefixTable

def toJson (table : PrefixTable) : Json :=
  .object [("mappings", .object (table.toList.map fun m => (m.1, m.2.toJson)))]

/-- Reads the mappings of a table. Prefixes of any length are taken. -/
def readMappings (depth : Nat) : List UInt8 → Except Json.Fault (PrefixTable × List UInt8) :=
  mapOf depth Mapping.read
    (fun table text mapping => ⟨table.mappings.insert text mapping⟩) PrefixTable.empty

def readMember (depth : Nat) (table : Option PrefixTable) (key : String) (unread : List UInt8) :
    Except Trouble (Option PrefixTable × List UInt8) :=
  if key = "mappings" then once key table (readMappings depth) some unread
  else foreign table unread

def read (depth : Nat) : List UInt8 → Except Json.Fault (PrefixTable × List UInt8) :=
  record "PrefixTypeTable" depth
    (fun depth => field "struct PrefixTypeTable with 1 element" 0 (readMappings depth))
    fun depth unread => do
      let (table, unread) ← members (readMember depth) (unread.length + 1) true none unread
      let table ← required "mappings" unread table
      .ok (table, unread)

end PrefixTable

end WidgetBindings
