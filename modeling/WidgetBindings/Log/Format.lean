import WidgetBindings.Json.Printer
import WidgetBindings.Log.Filter

/-!
# How reports are shown

Each report that passes the filter becomes one line: its severity, the spans it lies in, its
sentence and its particulars. Lines can be coloured for a terminal.
-/

namespace WidgetBindings.Log

inductive Layout
  /-- Spans with their particulars, then the report. -/
  | pretty
  /-- The names of spans, then the report, then the particulars of spans. -/
  | compact
  /-- A JSON object. -/
  | json
  deriving DecidableEq, Repr

/-- How reports are shown. -/
structure Style where
  filter : Filter
  layout : Layout := .pretty
  coloured : Bool := false

namespace Style

def paint (style : Style) (code : String) (text : String) : String :=
  if style.coloured then s!"\x1b[{code}m{text}\x1b[0m" else text

/-- The word for a severity, five characters wide, and its colour. -/
def severityWord : Severity → String × String
  | .error => ("ERROR", "31")
  | .warn => (" WARN", "33")
  | .info => (" INFO", "32")
  | .debug => ("DEBUG", "34")
  | .trace => ("TRACE", "35")

/-- A particular with its name. -/
def particular (style : Style) (p : String × Particular) : String :=
  style.paint "3" p.1 ++ style.paint "2" "=" ++ p.2.text

def particulars (style : Style) (ps : List (String × Particular)) : String :=
  " ".intercalate (ps.map style.particular)

/-- The sentence of a report with its particulars. -/
def body (style : Style) (report : Report) : String :=
  String.join (report.sentence :: report.particulars.map fun p => " " ++ style.particular p)

def prettySpans (style : Style) (spans : List Span) : String :=
  if spans.isEmpty then ""
  else String.join (spans.map fun span =>
    style.paint "1" span.name ++ style.paint "1" "\x7b" ++ style.particulars span.particulars ++
      style.paint "1" "\x7d" ++ style.paint "2" ":") ++ " "

def compactSpans (style : Style) (spans : List Span) : String :=
  if spans.isEmpty then ""
  else String.join (spans.map fun span => style.paint "1" span.name ++ ":") ++ " "

/-- The particulars of spans after a report. -/
def spanTail (style : Style) (spans : List Span) : String :=
  String.join (spans.map fun span => " " ++ style.paint "2" (style.particulars span.particulars))

/-- A particular as a member of a JSON object. -/
def jsonMember (p : String × Particular) : String × Json :=
  (p.1, match p.2 with
    | .plain text | .quoted text => .string text
    | .number n =>
      if fits : Json.Number.least ≤ n ∧ n < Json.Number.limit then .number (.integer n fits)
      else .string (toString n))

def jsonLine (spans : List Span) (report : Report) : Json := .object [
  ("level", .string (String.ofList (Text.trimChars (severityWord report.severity).1.toList))),
  ("fields", .object (("message", .string report.sentence) :: report.particulars.map jsonMember)),
  ("spans", .array (spans.map fun span =>
    .object (span.particulars.map jsonMember ++ [("name", .string span.name)])))]

def shows (style : Style) (report : Report) : Bool :=
  style.filter.shows report.severity report.origin

/-- The line for a report that lies in spans, the outermost first. Spans that the filter leaves out
are not shown. -/
def line (style : Style) (spans : List Span) (report : Report) : String :=
  let spans := spans.filter fun span => style.filter.shows .info span.origin
  let severity := severityWord report.severity
  let head := style.paint severity.2 severity.1 ++ " "
  match style.layout with
  | .pretty => head ++ style.prettySpans spans ++ style.body report ++ "\n"
  | .compact =>
    head ++ style.compactSpans spans ++ style.body report ++ style.spanTail spans ++ "\n"
  | .json => (jsonLine spans report).compact ++ "\n"

end Style

end WidgetBindings.Log
