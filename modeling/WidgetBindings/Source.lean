import WidgetBindings.Date
import WidgetBindings.Store

/-!
# The generated source

From a store follows a C++ file with two functions: one registers producers and consumers with the
host, one adds objects to the input group. Each call stands on a line of its own, in the order of
the store. A call that is switched off is left out, or shown as a comment when placeholders are
asked for. A display name becomes a string literal in which no character can end the literal or the
line.
-/

namespace WidgetBindings

namespace Source

/-! ## String literals -/

/-- How one character stands inside a string literal. Controls without a letter of their own are
written as three octal digits, which a following digit cannot lengthen. -/
def literalChar (c : Char) : List Char :=
  if c = '\\' then ['\\', '\\']
  else if c = '"' then ['\\', '"']
  else if c = '\n' then ['\\', 'n']
  else if c = '\r' then ['\\', 'r']
  else if c = '\t' then ['\\', 't']
  else if c.toNat < 32 ∨ c.toNat = 127 then
    ['\\', octalDigit (c.toNat / 64), octalDigit (c.toNat / 8 % 8), octalDigit (c.toNat % 8)]
  else [c]
where
  octalDigit (n : Nat) : Char := Char.ofNat (48 + n)

/-- The inside of the string literal for a text. -/
def literal (text : String) : String := String.ofList (text.toList.flatMap literalChar)

/-! ## Calls -/

def producerCall (entry : Entry) : String :=
  s!"host.AddProducer(\"{literal entry.displayName}\", {entry.identifier}, " ++
    s!"{entry.controlType.tag}, {entry.event.tag});"

def consumerCall (entry : Entry) : String :=
  s!"host.AddConsumer(\"{literal entry.displayName}\", {entry.identifier}, " ++
    s!"{entry.controlType.tag});"

def groupCall (entry : Entry) : String := s!"lv_group_add_obj(group, {entry.identifier});"

/-- The line of a call: the call itself if it is switched on, a comment if it is off and
placeholders are asked for, and nothing otherwise. -/
def callLine (enabled diagnostic : Bool) (call : String) : String :=
  if enabled then "    " ++ call ++ "\n"
  else if diagnostic then "    // " ++ call ++ "\n"
  else ""

/-- The lines that register an entry, the producer before the consumer. -/
def registrationLines (diagnostic : Bool) (entry : Entry) : String :=
  callLine entry.produce diagnostic (producerCall entry) ++
    callLine entry.consume diagnostic (consumerCall entry)

/-- The line that adds an entry to the group. -/
def groupLine (diagnostic : Bool) (entry : Entry) : String :=
  callLine entry.group diagnostic (groupCall entry)

/-- The body of the function that registers producers and consumers. -/
def registrationBody (store : Store) (diagnostic : Bool) : String :=
  String.join (store.toList.map (registrationLines diagnostic))

/-- The body of the function that fills the group. -/
def groupBody (store : Store) (diagnostic : Bool) : String :=
  String.join (store.toList.map (groupLine diagnostic))

/-! ## The file -/

/-- The comment at the head of a file that says what made it and when. -/
structure Banner where
  tool : String
  version : String
  date : Date

def Banner.line (banner : Banner) : String :=
  s!"// Generated by {banner.tool} {banner.version} on {banner.date.text}\n"

/-- How a file is to be made. -/
structure Options where
  /-- The header with the symbols. -/
  includeFile : String := "ui.h"
  /-- Whether calls that are off are shown as comments. -/
  diagnostic : Bool := false
  banner : Option Banner := none

def includeLine (header : String) : String := s!"#include \"{header}\"\n"

/-- A function with the given first line and body. -/
def functionText (signature body : String) : String := signature ++ "\n\x7b\n" ++ body ++ "\x7d\n"

def text (store : Store) (options : Options) : String :=
  (options.banner.elim "" Banner.line) ++
    includeLine "LvglHost.h" ++ includeLine options.includeFile ++ includeLine "LvglBinding.h" ++
    "\n" ++
    functionText "void LvglBindingInit(LvglHost& host)"
      (registrationBody store options.diagnostic) ++
    "\n" ++
    functionText "void LvglGroupInit(lv_group_t* group)" (groupBody store options.diagnostic)

end Source

end WidgetBindings
