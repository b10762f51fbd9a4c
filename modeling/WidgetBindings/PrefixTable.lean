import Std.Data.ExtTreeMap
import WidgetBindings.Entry

/-!
# The prefix table

Three characters at the front of a name tell what kind of widget it is. The table gives the defaults
for each such prefix and lists them in the order of their code points. Prefixes are matched letter
by letter, case included.
-/

namespace WidgetBindings

/-- The number of characters in a classification prefix. -/
def prefixLength : Nat := 3

/-- The defaults for each prefix. -/
structure PrefixTable where
  mappings : Std.ExtTreeMap String Mapping
  deriving DecidableEq

namespace PrefixTable

def empty : PrefixTable := ⟨∅⟩

/-- The prefixes that are known from the start. -/
def standardMappings : List (String × Mapping) := [
  ("scr", ⟨.screen, .gesture⟩),
  ("arc", ⟨.arc, .clicked⟩),
  ("btn", ⟨.button, .clicked⟩),
  ("img", ⟨.imageButton, .clicked⟩),
  ("lbl", ⟨.label, .valueChanged⟩),
  ("pnl", ⟨.button, .clicked⟩),
  ("txa", ⟨.textArea, .valueChanged⟩),
  ("cal", ⟨.calendar, .valueChanged⟩),
  ("chk", ⟨.checkbox, .valueChanged⟩),
  ("clr", ⟨.colorWheel, .valueChanged⟩),
  ("cmb", ⟨.dropdown, .valueChanged⟩),
  ("ibt", ⟨.imageButton, .clicked⟩),
  ("kbd", ⟨.keyboard, .key⟩),
  ("rlr", ⟨.roller, .valueChanged⟩),
  ("sld", ⟨.slider, .valueChanged⟩),
  ("swt", ⟨.switch, .valueChanged⟩)]

def standard : PrefixTable :=
  ⟨standardMappings.foldl (fun t m => t.insert m.1 m.2) ∅⟩

/-- Sets the defaults for a prefix, which has to have three characters. -/
def insert (table : PrefixTable) (text : String) (mapping : Mapping) : Except Refusal PrefixTable :=
  if text.length = prefixLength then .ok ⟨table.mappings.insert text mapping⟩
  else .error (.invalidPrefix text)

def lookup? (table : PrefixTable) (text : String) : Option Mapping := table.mappings[text]?

/-- The prefixes with their defaults, in the order of their code points. -/
def toList (table : PrefixTable) : List (String × Mapping) := table.mappings.toList

def size (table : PrefixTable) : Nat := table.mappings.size

end PrefixTable

end WidgetBindings
