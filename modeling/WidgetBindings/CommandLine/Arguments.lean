import WidgetBindings.Log.Format
import WidgetBindings.Project

/-!
# Arguments of the command line

The arguments name one command. Options may stand before and after the name of the command; each may
be given once before it and once after it, and what is given after it counts. A value follows its
option as the next argument, after an equals sign, or right after the letter of the option. After
two hyphens no argument is an option.
-/

namespace WidgetBindings.CommandLine

/-- An option, with a value or without. -/
inductive Switch
  | workingDirectory | includeFile | bindingName | constantPrefix | acceptAll | objectType
  | verbose | quiet | colour | logLevel | logFormat | logFile
  | format | diagnostic | noBanner
  | help | version
  deriving DecidableEq, Repr

/-- Where options may stand. -/
inductive Scope
  /-- Before the name of the command. -/
  | top
  | list | edit | generate | notes | types
  deriving DecidableEq, Repr

namespace Switch

def all : List Switch :=
  [workingDirectory, includeFile, bindingName, constantPrefix, acceptAll, objectType, verbose,
    quiet, colour, logLevel, logFormat, logFile, format, diagnostic, noBanner, help, version]

def name : Switch → String
  | workingDirectory => "working-dir"
  | includeFile => "include"
  | bindingName => "binding-name"
  | constantPrefix => "prefix"
  | acceptAll => "all"
  | objectType => "object-type"
  | verbose => "verbose"
  | quiet => "quiet"
  | colour => "color"
  | logLevel => "log-level"
  | logFormat => "log-format"
  | logFile => "log-file"
  | format => "format"
  | diagnostic => "diagnostic"
  | noBanner => "no-banner"
  | help => "help"
  | version => "version"

def letter? : Switch → Option Char
  | workingDirectory => some 'w'
  | includeFile => some 'i'
  | bindingName => some 'b'
  | constantPrefix => some 'p'
  | acceptAll => some 'a'
  | verbose => some 'v'
  | quiet => some 'q'
  | help => some 'h'
  | version => some 'V'
  | objectType | colour | logLevel | logFormat | logFile | format | diagnostic | noBanner => none

def hasValue : Switch → Bool
  | workingDirectory | includeFile | bindingName | constantPrefix | objectType | colour | logLevel
  | logFormat | logFile | format => true
  | acceptAll | verbose | quiet | diagnostic | noBanner | help | version => false

def repeats : Switch → Bool
  | verbose | quiet => true
  | _ => false

def standsIn (scope : Scope) : Switch → Bool
  | version => scope = .top
  | format => scope = .list
  | diagnostic | noBanner => scope = .edit || scope = .generate
  | _ => true

def accepts (value : String) : Switch → Bool
  | workingDirectory | logFile => value ≠ ""
  | colour => value ∈ ["auto", "always", "never"]
  | logLevel => value ∈ ["error", "warn", "info", "debug", "trace"]
  | logFormat => value ∈ ["pretty", "compact", "json"]
  | format => value ∈ ["table", "json"]
  | _ => true

end Switch

def Scope.ofName? : String → Option Scope
  | "list" => some .list
  | "edit" => some .edit
  | "generate" => some .generate
  | "notes" => some .notes
  | "types" => some .types
  | _ => none

/-- Why the arguments do not lead to a command. -/
inductive Stop
  | helpWanted
  | versionWanted
  | refused
  deriving DecidableEq, Repr

/-- The options and the other arguments of a scope, in order. An option without a value has an empty
one. -/
structure Given where
  options : List (Switch × String) := []
  operands : List String := []

namespace Given

def times (given : Given) (switch : Switch) : Nat := given.options.countP (·.1 = switch)

def value? (given : Given) (switch : Switch) : Option String :=
  (given.options.find? (·.1 = switch)).map (·.2)

def take (given : Given) (switch : Switch) (value : String) : Except Stop Given :=
  if switch = .help then .error .helpWanted
  else if switch = .version then .error .versionWanted
  else if !switch.repeats && 0 < given.times switch then .error .refused
  else if switch.accepts value then
    .ok { given with options := given.options ++ [(switch, value)] }
  else .error .refused

/-- Whether the options of a scope may stand together. -/
def coherent (given : Given) : Bool := given.times .verbose = 0 || given.times .quiet = 0

end Given

/-- Reads letters of options that stand in one argument. An option that waits for its value comes
along. -/
def takeLetters (scope : Scope) : Given → List Char → Except Stop (Given × Option Switch)
  | given, [] => .ok (given, none)
  | given, c :: rest =>
    match Switch.all.find? fun s => s.letter? = some c ∧ s.standsIn scope with
    | none => .error .refused
    | some switch =>
      if switch.hasValue then
        match rest with
        | [] => .ok (given, some switch)
        | '=' :: value => do .ok (← given.take switch (String.ofList value), none)
        | value => do .ok (← given.take switch (String.ofList value), none)
      else do takeLetters scope (← given.take switch "") rest

/-- Reads an option that is given by its name, hyphens left out. -/
def takeName (scope : Scope) (given : Given) (text : List Char) :
    Except Stop (Given × Option Switch) :=
  let name := String.ofList (text.takeWhile (· ≠ '='))
  match Switch.all.find? fun s => s.name = name ∧ s.standsIn scope with
  | none => .error .refused
  | some switch =>
    match text.dropWhile (· ≠ '='), switch.hasValue with
    | [], true => .ok (given, some switch)
    | [], false => do .ok (← given.take switch "", none)
    | _ :: value, true => do .ok (← given.take switch (String.ofList value), none)
    | _ :: _, false => .error .refused

/-- Takes in an argument that is no option. -/
def takeOperand (scope : Scope) (given : Given) (text : String) : Except Stop Given :=
  if scope = .edit then .ok { given with operands := given.operands ++ [text] } else .error .refused

/-- What the word for help is followed by. -/
def helpOn : List String → Stop
  | [] => .helpWanted
  | [name] => if name = "help" ∨ (Scope.ofName? name).isSome then .helpWanted else .refused
  | _ => .refused

/-- Reads the arguments of a scope. Before the name of a command, it ends at that name; the scope of
the command and the arguments after it come along. `waiting` is an option without its value yet. -/
def takeAll (scope : Scope) : (waiting : Option Switch) → Given → List String →
    Except Stop (Given × Option (Scope × List String))
  | none, given, [] => .ok (given, none)
  | some _, _, [] => .error .refused
  | waiting, given, arg :: rest =>
    match waiting, arg.toList with
    | some _, '-' :: _ :: _ => .error .refused
    | some switch, _ => do takeAll scope none (← given.take switch arg) rest
    | none, ['-', '-'] => do
      .ok (← rest.foldlM (takeOperand scope) given, none)
    | none, '-' :: '-' :: text => do
      let (given, waiting) ← takeName scope given text
      takeAll scope waiting given rest
    | none, '-' :: c :: text => do
      let (given, waiting) ← takeLetters scope given (c :: text)
      takeAll scope waiting given rest
    | none, _ =>
      if scope = .top then
        if arg = "help" then .error (helpOn rest)
        else match Scope.ofName? arg with
          | some command => .ok (given, some (command, rest))
          | none => .error .refused
      else do takeAll scope none (← takeOperand scope given arg) rest

/-- How the generated files are to be written. -/
structure Output where
  diagnostic : Bool
  noBanner : Bool
  deriving DecidableEq, Repr

/-- What is to be done. -/
inductive Command
  | list (json : Bool)
  | edit (identifier : String) (assignments : List String) (output : Output)
  | generate (output : Output)
  | notes
  | types
  deriving DecidableEq, Repr

inductive Colour
  | auto | always | never
  deriving DecidableEq, Repr

/-- What the options settle. -/
structure Settings where
  project : Project
  /-- How many levels more than warnings are shown, if the options say so. -/
  verbosity : Option Int
  logLevel : Option Log.Level
  layout : Log.Layout
  logFile : Option String
  colour : Colour

/-- Options before and after the name of a command. -/
structure Levels where
  outer : Given
  inner : Given

namespace Levels

def value? (levels : Levels) (switch : Switch) : Option String :=
  levels.inner.value? switch <|> levels.outer.value? switch

/-- How often an option is given, after the name of the command if it is given there. -/
def times (levels : Levels) (switch : Switch) : Nat :=
  if levels.inner.times switch = 0 then levels.outer.times switch else levels.inner.times switch

def project (levels : Levels) : Project :=
  let start : Project := {}
  { workingDirectory := (levels.value? .workingDirectory).getD start.workingDirectory
    includeFile := (levels.value? .includeFile).getD start.includeFile
    bindingName := (levels.value? .bindingName).getD start.bindingName
    constantPrefix := (levels.value? .constantPrefix).getD start.constantPrefix
    acceptAll := 0 < levels.times .acceptAll
    objectType := (levels.value? .objectType).getD start.objectType }

def settings (levels : Levels) : Settings where
  project := levels.project
  verbosity :=
    if levels.times .verbose = 0 ∧ levels.times .quiet = 0 then none
    else some ((levels.times .verbose : Int) - levels.times .quiet)
  logLevel := (levels.value? .logLevel).bind Log.Level.ofWord?
  layout :=
    match levels.value? .logFormat with
    | some "compact" => .compact
    | some "json" => .json
    | _ => .pretty
  logFile := levels.value? .logFile
  colour :=
    match levels.value? .colour with
    | some "always" => .always
    | some "never" => .never
    | _ => .auto

end Levels

def command? (given : Given) : Scope → Option Command
  | .top => none
  | .list => some (.list (given.value? .format = some "json"))
  | .edit =>
    match given.operands with
    | identifier :: assignment :: rest =>
      some (.edit identifier (assignment :: rest) (output given))
    | _ => none
  | .generate => some (.generate (output given))
  | .notes => some .notes
  | .types => some .types
where
  output (given : Given) : Output := ⟨0 < given.times .diagnostic, 0 < given.times .noBanner⟩

def parse (arguments : List String) : Except Stop (Settings × Command) := do
  match ← takeAll .top none {} arguments with
  | (_, none) => .error .refused
  | (outer, some (scope, rest)) =>
    let (inner, _) ← takeAll scope none {} rest
    match command? inner scope with
    | none => .error .refused
    | some command =>
      if outer.coherent && inner.coherent then .ok (Levels.settings ⟨outer, inner⟩, command)
      else .error .refused

end WidgetBindings.CommandLine
