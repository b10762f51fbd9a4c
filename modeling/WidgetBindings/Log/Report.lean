import WidgetBindings.Build
import WidgetBindings.Overlay
import WidgetBindings.Text.Quoted

/-!
# Reports

What the tool reports while it works: each report has a severity, the part of the tool that it comes
from, a sentence, and named particulars. Reports of one stretch of work share its span.
-/

namespace WidgetBindings.Log

/-- How much a report matters, the most serious first. -/
inductive Severity
  | error | warn | info | debug | trace
  deriving DecidableEq, Repr

def Severity.rank : Severity → Nat
  | error => 1
  | warn => 2
  | info => 3
  | debug => 4
  | trace => 5

/-- A particular as it is shown. -/
inductive Particular
  | plain (text : String)
  | number (n : Nat)
  | quoted (text : String)

def Particular.text : Particular → String
  | plain text => text
  | number n => toString n
  | quoted text => Text.quoted text

/-- A stretch of work. -/
inductive Span
  /-- Scanning the header at a path. -/
  | scan (header : String)
  /-- Editing the entry of an identifier. -/
  | edit (identifier : String)

namespace Span

def name : Span → String
  | scan _ => "scan"
  | edit _ => "edit"

/-- The part of the tool that a stretch of work belongs to. -/
def origin : Span → String
  | scan _ => "uibind_core::session"
  | edit _ => "uibind::commands"

def particulars : Span → List (String × Particular)
  | scan header => [("header", .plain header)]
  | edit identifier => [("identifier", .plain identifier)]

end Span

/-- Something that is reported. -/
inductive Report
  | unmappedSymbol (declaration : Declaration)
  | repeatedSymbol (declaration : Declaration)
  | scanComplete (summary : ScanSummary)
  | documentMissing (path : String)
  | documentIgnored (error : String) (hint : String)
  | documentLoaded (path : String) (summary : LoadSummary)
  | keyWithoutSuffix (key : String)
  | keyWithUnknownField (key : String)
  | unsupportedValue (key : String) (value : String)
  | fieldUpdated (identifier : String) (field : Field)
  | fileWritten (path : String) (bytes : Nat)
  | documentSaved (path : String) (entries : Nat)
  | sourceWritten (path : String) (producers consumers grouped : Nat)

namespace Report

def severity : Report → Severity
  | repeatedSymbol _ | documentMissing _ | documentIgnored _ _ => .warn
  | scanComplete _ | documentLoaded _ _ | fieldUpdated _ _ | documentSaved _ _
  | sourceWritten _ _ _ _ => .info
  | unmappedSymbol _ | unsupportedValue _ _ | fileWritten _ _ => .debug
  | keyWithoutSuffix _ | keyWithUnknownField _ => .trace

def origin : Report → String
  | unmappedSymbol _ | repeatedSymbol _ => "uibind_ingest::classify"
  | scanComplete _ | documentIgnored _ _ | fieldUpdated _ _ => "uibind_core::session"
  | documentMissing _ | documentLoaded _ _ | documentSaved _ _ => "uibind_persistence::io"
  | keyWithoutSuffix _ | keyWithUnknownField _ | unsupportedValue _ _ =>
    "uibind_persistence::apply"
  | fileWritten _ _ => "uibind_common::fs"
  | sourceWritten _ _ _ _ => "uibind_report::write"

def sentence : Report → String
  | unmappedSymbol _ => "unmapped symbol"
  | repeatedSymbol _ => "symbol declared more than once"
  | scanComplete _ => "scan complete"
  | documentMissing _ => "configuration document not found, using defaults"
  | documentIgnored _ _ => "ignoring configuration document, using defaults"
  | documentLoaded _ _ => "loaded configuration document"
  | keyWithoutSuffix _ => "ignoring key without field suffix"
  | keyWithUnknownField _ => "ignoring key with unknown field"
  | unsupportedValue _ _ => "unsupported value in document"
  | fieldUpdated _ _ => "field updated"
  | fileWritten _ _ => "wrote file"
  | documentSaved _ _ => "saved configuration document"
  | sourceWritten _ _ _ _ => "wrote binding source"

/-- The particulars of a report, in the order in which they are shown. -/
def particulars : Report → List (String × Particular)
  | unmappedSymbol d | repeatedSymbol d =>
    [("identifier", .plain d.identifier), ("line", .number d.line)]
  | scanComplete s => [("declarations", .number s.declarations), ("mapped", .number s.mapped),
      ("fallback", .number s.fallback), ("rejected", .number s.rejected)]
  | documentMissing path => [("path", .plain path)]
  | documentIgnored error hint => [("error", .plain error), ("hint", .quoted hint)]
  | documentLoaded path s => [("path", .plain path), ("applied", .number s.applied),
      ("stale", .number s.staleIdentifiers.length), ("rejected", .number s.rejectedKeys.length)]
  | keyWithoutSuffix key | keyWithUnknownField key => [("key", .plain key)]
  | unsupportedValue key value => [("key", .plain key), ("value", .plain value)]
  | fieldUpdated identifier field =>
    [("identifier", .plain identifier), ("field", .plain field.suffix)]
  | fileWritten path bytes => [("path", .plain path), ("bytes", .number bytes)]
  | documentSaved path entries => [("path", .plain path), ("entries", .number entries)]
  | sourceWritten path producers consumers grouped => [("path", .plain path),
      ("producers", .number producers), ("consumers", .number consumers),
      ("grouped", .number grouped)]

/-- The reports of a scan: of what did not become an entry, and of the counts. -/
def ofBuild (build : Build) : List Report :=
  build.incidents.map (fun
    | .rejected declaration _ => unmappedSymbol declaration
    | .repeated declaration => repeatedSymbol declaration) ++ [scanComplete build.summary]

/-- The report on a key of a document that is not used. -/
def ofJudged? (j : Judged) : Option Report :=
  match j.verdict with
  | .withoutSuffix => some (keyWithoutSuffix j.key)
  | .unknownField => some (keyWithUnknownField j.key)
  | .rejected => some (unsupportedValue j.key j.value.compact)
  | .stale _ | .applied _ _ => none

/-- The reports of a load from a path: of the keys that are not used, and of the counts. -/
def ofLoad (path : String) (document : Document) (store : Store) : List Report :=
  (document.judge store).filterMap ofJudged? ++ [documentLoaded path (document.summary store)]

end Report

end WidgetBindings.Log
