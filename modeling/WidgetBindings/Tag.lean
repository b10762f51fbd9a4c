/-!
# Tags

The two vocabularies that a binding draws on: the kind of widget and the event that fires it. Each
member has one tag, which is what documents hold, what tables show and what the generated calls
name. A tag is matched letter by letter, case included.
-/

namespace WidgetBindings

/-- The kind of widget a symbol stands for. -/
inductive ControlType
  | screen | arc | button | label | textArea | calendar | checkbox | colorWheel | dropdown | roller
  | imageButton | keyboard | slider | switch
  deriving DecidableEq, Repr

namespace ControlType

/-- Every kind of widget, in the order in which they are listed. -/
def all : List ControlType :=
  [screen, arc, button, label, textArea, calendar, checkbox, colorWheel, dropdown, roller,
    imageButton, keyboard, slider, switch]

def tag : ControlType → String
  | screen => "SCREEN_CT"
  | arc => "ARC_CT"
  | button => "BUTTON_CT"
  | label => "LABEL_CT"
  | textArea => "TEXTAREA_CT"
  | calendar => "CALENDAR_CT"
  | checkbox => "CHECKBOX_CT"
  | colorWheel => "COLORWHEEL_CT"
  | dropdown => "DROPDOWN_CT"
  | roller => "ROLLER_CT"
  | imageButton => "IMGBUTTON_CT"
  | keyboard => "KEYBOARD_CT"
  | slider => "SLIDER_CT"
  | switch => "SWITCH_CT"

def ofTag? (text : String) : Option ControlType := all.find? fun t => t.tag = text

end ControlType

/-- The event that fires a producer. -/
inductive EventCode
  | pressed | pressing | pressLost | shortClicked | longPressed | longPressedRepeat | clicked
  | released | gesture | key | focused | defocused | leave | valueChanged | refresh | delete
  deriving DecidableEq, Repr

namespace EventCode

/-- Every event, in the order in which they are listed. -/
def all : List EventCode :=
  [pressed, pressing, pressLost, shortClicked, longPressed, longPressedRepeat, clicked, released,
    gesture, key, focused, defocused, leave, valueChanged, refresh, delete]

def tag : EventCode → String
  | pressed => "LV_EVENT_PRESSED"
  | pressing => "LV_EVENT_PRESSING"
  | pressLost => "LV_EVENT_PRESS_LOST"
  | shortClicked => "LV_EVENT_SHORT_CLICKED"
  | longPressed => "LV_EVENT_LONG_PRESSED"
  | longPressedRepeat => "LV_EVENT_LONG_PRESSED_REPEAT"
  | clicked => "LV_EVENT_CLICKED"
  | released => "LV_EVENT_RELEASED"
  | gesture => "LV_EVENT_GESTURE"
  | key => "LV_EVENT_KEY"
  | focused => "LV_EVENT_FOCUSED"
  | defocused => "LV_EVENT_DEFOCUSED"
  | leave => "LV_EVENT_LEAVE"
  | valueChanged => "LV_EVENT_VALUE_CHANGED"
  | refresh => "LV_EVENT_REFRESH"
  | delete => "LV_EVENT_DELETE"

def ofTag? (text : String) : Option EventCode := all.find? fun e => e.tag = text

end EventCode

end WidgetBindings
