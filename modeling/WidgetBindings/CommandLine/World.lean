import WidgetBindings.CommandLine.Run

/-!
# Surroundings with a log

A disk, a date, and a place where reports go: error output, or a file that stays the same when it is
given another name. Reports are lost once another file has taken the place of the log.
-/

namespace WidgetBindings.CommandLine

/-- Where reports go. -/
inductive Sink
  | errorOutput
  /-- The file at a location, or one that is no longer to be found. -/
  | file (location : Option Location)

/-- A disk with a date and a log. -/
structure World where
  disk : Disk
  date : Option Date := none
  /-- How reports are shown and where they go, once that is known. -/
  log : Option (Log.Style × Sink) := none
  /-- What error output has shown. -/
  shown : String := ""

namespace World

/-- The world with a line added to the file at a location. -/
def appendLine (world : World) (location : Location) (line : String) : World :=
  match world.disk.at? location with
  | some (.file bytes) =>
    { world with disk := world.disk.put location (.file (bytes ++ Text.toBytes line)) }
  | _ => world

def note (world : World) (spans : List Log.Span) (report : Log.Report) : World :=
  match world.log with
  | none => world
  | some (style, sink) =>
    if style.shows report then
      let line := style.line spans report
      match sink with
      | .errorOutput => { world with shown := world.shown ++ line }
      | .file (some location) => world.appendLine location line
      | .file none => world
    else world

/-- The world with reports going somewhere from now on. -/
def openLog (world : World) (style : Log.Style) : Option String → Except Failure Unit × World
  | none => (.ok (), { world with log := some (style, .errorOutput) })
  | some path =>
    match world.disk.openFile path with
    | .error failure => (.error failure, world)
    | .ok (location, bytes) =>
      (.ok (), { world with
        disk := world.disk.put location (.file bytes)
        log := some (style, .file (some location)) })

/-- The world with the log followed to another location, or lost. -/
def followLog (world : World) (follow : Location → Option Location) : World :=
  { world with
    log := world.log.map fun (style, sink) => (style, match sink with
      | .file (some location) => .file (follow location)
      | sink => sink) }

/-- What becomes of the log when a file is moved. -/
def afterRename (world : World) (source target : String) : World :=
  match world.disk.moving source target with
  | .error _ => world
  | .ok (old, new, _) => world.followLog fun location =>
      if location = old then some new else if location = new then none else some location

/-- What becomes of the log when a file is removed. -/
def afterRemove (world : World) (path : String) : World :=
  match world.disk.removal path with
  | .error _ => world
  | .ok gone => world.followLog fun location => if location = gone then none else some location

def onDisk (world : World) (r : Request) : r.Answer × World :=
  let (answer, disk) := Program.answerOn world.disk r
  (answer, { world with disk })

def answer : (r : Request) → World → r.Answer × World
  | .openLog style path, world => world.openLog style path
  | .report spans report, world => ((), world.note spans report)
  | .today, world => (world.date, world)
  | .rename source target, world =>
    (world.afterRename source target).onDisk (.rename source target)
  | .remove path, world => (world.afterRemove path).onDisk (.remove path)
  | r, world => world.onDisk r

/-- Runs the tool. What it prints to error output follows the reports shown there. -/
def run (world : World) (invocation : Invocation) : Outcome × World :=
  let (outcome, after) := (CommandLine.run invocation).runIn (m := StateM World)
    answer { world with log := none, shown := "" }
  ({ outcome with errors := after.shown ++ outcome.errors }, after)

end World

end WidgetBindings.CommandLine
