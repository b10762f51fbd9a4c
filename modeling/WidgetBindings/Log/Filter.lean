import WidgetBindings.Log.Report
import WidgetBindings.Text.Blank
import WidgetBindings.Text.Split
import WidgetBindings.Text.WordTable

/-!
# Which reports are shown

A filter is a list of directives. Each sets a level for the reports whose origin starts with its
target; of those that apply the one with the longest target counts, and among equal targets the
last. A report is shown if it is at least as serious as the level.
-/

namespace WidgetBindings.Log

/-- A level: nothing, or all that is at least as serious as a severity. -/
inductive Level
  | off
  | upTo (severity : Severity)
  deriving DecidableEq, Repr

namespace Level

/-- The levels from the one that shows nothing to the one that shows all. -/
def all : List Level :=
  [off, upTo .error, upTo .warn, upTo .info, upTo .debug, upTo .trace]

def rank : Level → Nat
  | off => 0
  | upTo severity => severity.rank

def ofRank (n : Nat) : Level := all.getD n (upTo .trace)

def word : Level → String
  | off => "off"
  | upTo .error => "error"
  | upTo .warn => "warn"
  | upTo .info => "info"
  | upTo .debug => "debug"
  | upTo .trace => "trace"

/-- The level that a word or a digit stands for, case not counting. -/
def ofWord? (text : String) : Option Level :=
  all.find? fun level =>
    level.word = String.ofList (text.toList.map Char.toLower) ∨ toString level.rank = text

end Level

/-- A level for the origins that start with a target. -/
structure Directive where
  target : String
  level : Level

/-- The directives that decide what is shown. -/
abbrev Filter := List Directive

namespace Directive

/-- Whether a directive may start with a character. -/
def mayStart (c : Char) : Bool := c = '-' || c = ':' || Text.isWord c

/-- The directive that a text stands for: a level, a target, or both with an equals sign between
them. A target without a level shows all. White space does not count for where the text is cut,
but the parts keep it. -/
def ofText? (text : String) : Option Directive :=
  let trimmed := Text.trimChars text.toList
  let place := (trimmed.takeWhile (· ≠ '=')).length
  if !trimmed.head?.any mayStart then none
  else if place = trimmed.length then
    match Level.ofWord? text with
    | some level => some ⟨"", level⟩
    | none => some ⟨text, .upTo .trace⟩
  else
    let target := String.ofList (text.toList.take place)
    match text.toList.drop (place + 1) with
    | [] => some ⟨target, .upTo .trace⟩
    | level => (Level.ofWord? (String.ofList level)).map fun level => ⟨target, level⟩

def appliesTo (d : Directive) (origin : String) : Bool := d.target.toList.isPrefixOf origin.toList

end Directive

namespace Filter

/-- The parts of the tool that follow the level asked for. -/
def ownTargets : List String :=
  ["uibind", "uibind_cli", "uibind_core", "uibind_ingest", "uibind_model", "uibind_persistence",
    "uibind_report"]

/-- The directives for a level, with warnings from everywhere. -/
def ofLevel (level : Level) : Filter :=
  ⟨"", .upTo .warn⟩ :: ownTargets.map fun target => ⟨target, level⟩

/-- The text of the directives for a level. -/
def levelText (level : Level) : String :=
  String.join ("warn" :: ownTargets.map fun target => s!",{target}={level.word}")

/-- The filter that a text of directives with commas between them stands for. A text without
directives shows errors. -/
def ofText? (text : String) : Option Filter :=
  match (Text.splitOn ',' text.toList).filter (!·.isEmpty) with
  | [] => some [⟨"", .upTo .error⟩]
  | parts => parts.mapM fun part => Directive.ofText? (String.ofList part)

def levelFor (filter : Filter) (origin : String) : Level :=
  (filter.filter (·.appliesTo origin)).foldl
    (fun best d => if best.target.length ≤ d.target.length then d else best) ⟨"", .off⟩ |>.level

/-- Whether a report of a severity from an origin is shown. -/
def shows (filter : Filter) (severity : Severity) (origin : String) : Bool :=
  severity.rank ≤ (filter.levelFor origin).rank

end Filter

end WidgetBindings.Log
