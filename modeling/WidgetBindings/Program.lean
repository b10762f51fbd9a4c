import WidgetBindings.Date
import WidgetBindings.Disk.Basic
import WidgetBindings.Log.Format

/-!
# Programs

The tool asks its surroundings for file operations, for the date and to take note of reports. A
program is such a request and what follows each answer, or a result. It can be run on a disk
(`Program.run`), by the operating system, or in any other surroundings that answer requests
(`Program.runIn`).
-/

namespace WidgetBindings

/-- What the tool asks of its surroundings. -/
inductive Request
  | makeDirectory (path : String)
  | isDirectory (path : String)
  /-- Makes an empty file, or empties the one that is there. -/
  | create (path : String)
  /-- Puts bytes into the file that has just been made. -/
  | write (path : String) (bytes : List UInt8)
  /-- Waits until the file is safely stored. -/
  | sync (path : String)
  | rename (source target : String)
  | remove (path : String)
  | read (path : String)
  /-- Shows reports from now on, in a style, in the file at the path if there is one. -/
  | openLog (style : Log.Style) (path : Option String)
  /-- Takes note of a report that lies in spans, the outermost first. -/
  | report (spans : List Log.Span) (report : Log.Report)
  | today

def Request.Answer : Request → Type
  | makeDirectory _ | create _ | write _ _ | sync _ | rename _ _ | remove _ | openLog _ _ =>
    Except Failure Unit
  | isDirectory _ => Bool
  | read _ => Except Failure (List UInt8)
  | report _ _ => Unit
  | today => Option Date

/-- Requests one after the other, each chosen by the answers before, and a result. -/
inductive Program (α : Type) : Type
  | done (result : α)
  | ask (request : Request) (next : request.Answer → Program α)

namespace Program

def bind {α β : Type} : Program α → (α → Program β) → Program β
  | done a, f => f a
  | ask request next, f => ask request fun answer => (next answer).bind f

instance : Monad Program where
  pure := done
  bind := bind

/-- The program of one request. -/
def request (r : Request) : Program r.Answer := ask r done

def makeDirectory (path : String) : Program (Except Failure Unit) := request (.makeDirectory path)

def isDirectory (path : String) : Program Bool := request (.isDirectory path)

def create (path : String) : Program (Except Failure Unit) := request (.create path)

def write (path : String) (bytes : List UInt8) : Program (Except Failure Unit) :=
  request (.write path bytes)

def sync (path : String) : Program (Except Failure Unit) := request (.sync path)

def rename (source target : String) : Program (Except Failure Unit) :=
  request (.rename source target)

def remove (path : String) : Program (Except Failure Unit) := request (.remove path)

def read (path : String) : Program (Except Failure (List UInt8)) := request (.read path)

def openLog (style : Log.Style) (path : Option String) : Program (Except Failure Unit) :=
  request (.openLog style path)

def report (r : Log.Report) : Program Unit := request (.report [] r)

def reportAll : List Log.Report → Program Unit
  | [] => done ()
  | r :: rest => do
    report r
    reportAll rest

def today : Program (Option Date) := request .today

/-- A program whose reports lie in a span. -/
def within {α : Type} (span : Log.Span) : Program α → Program α
  | done a => done a
  | ask (.report spans r) next =>
    ask (.report (span :: spans) r) fun answer => (next answer).within span
  | ask request next => ask request fun answer => (next answer).within span

/-- Runs a program in surroundings that answer its requests. -/
def runIn {m : Type → Type} [Monad m] (answer : (r : Request) → m r.Answer) {α : Type} :
    Program α → m α
  | done a => pure a
  | ask r next => do runIn answer (next (← answer r))

/-- A disk after an operation, or the disk as it was if the operation failed. -/
def changed (disk : Disk) : Except Failure Disk → Except Failure Unit × Disk
  | .ok disk => (.ok (), disk)
  | .error failure => (.error failure, disk)

/-- How a disk answers a request. It knows no date and keeps no reports. -/
def answerOn (disk : Disk) : (r : Request) → r.Answer × Disk
  | .makeDirectory path => changed disk (disk.makeDirectory path)
  | .isDirectory path => (disk.isDirectory path, disk)
  | .create path => changed disk (disk.create path)
  | .write path bytes => changed disk (disk.write path bytes)
  | .sync _ => (Except.ok (), disk)
  | .rename source target => changed disk (disk.rename source target)
  | .remove path => changed disk (disk.remove path)
  | .read path => (disk.read path, disk)
  | .openLog _ _ => (Except.ok (), disk)
  | .report _ _ => ((), disk)
  | .today => ((none : Option Date), disk)

/-- Runs a program on a disk. -/
def run {α : Type} : Program α → Disk → α × Disk
  | done a, disk => (a, disk)
  | ask r next, disk => (next (answerOn disk r).1).run (answerOn disk r).2

end Program

end WidgetBindings
