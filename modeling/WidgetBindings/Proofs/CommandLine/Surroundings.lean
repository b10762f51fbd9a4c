import WidgetBindings.CommandLine.World
import WidgetBindings.Proofs.Program.Dated

/-!
# Surroundings without a log on the disk

While reports go to no file, the surroundings answer as their disk does on their day
(`carryOut_eq_runOn`), and so a run of the tool comes to what it comes to there (`run_eq_runOn`).
-/

namespace WidgetBindings.CommandLine.World

open Program

variable {α : Type} {world : World} {paths : List String}

/-- Reports go to no file. -/
def Quiet (world : World) : Prop := ∀ style location, world.log ≠ some (style, .file location)

/-- What comes of a program in the surroundings, and what has become of them. -/
def carryOut (world : World) (p : Program α) : α × World :=
  p.runIn (m := StateM World) answer world

theorem carryOut_ask (r : Request) (next : r.Answer → Program α) (world : World) :
    world.carryOut (.ask r next) = (answer r world).2.carryOut (next (answer r world).1) := rfl

/-- Surroundings without a log on the disk, with this disk and this date. -/
structure Becomes (disk : Disk) (date : Option Date) (world : World) : Prop where
  quiet : world.Quiet
  disk : world.disk = disk
  date : world.date = date

theorem Quiet.becomes (quiet : world.Quiet) : Becomes world.disk world.date world :=
  ⟨quiet, rfl, rfl⟩

theorem Quiet.followLog (quiet : world.Quiet) (follow : Location → Option Location) :
    Becomes world.disk world.date (world.followLog follow) := by
  refine ⟨fun style location h => ?_, rfl, rfl⟩
  obtain ⟨⟨_, sink⟩, logged, same⟩ := Option.map_eq_some_iff.1 h
  cases sink with
  | errorOutput => cases same
  | file at_ => exact quiet _ _ logged

theorem Quiet.note (quiet : world.Quiet) (spans : List Log.Span) (report : Log.Report) :
    Becomes world.disk world.date (world.note spans report) := by
  unfold World.note
  split
  · exact quiet.becomes
  · rename_i style sink logged
    split
    · cases sink with
      | errorOutput => exact ⟨quiet, rfl, rfl⟩
      | file location => exact absurd logged (quiet style location)
    · exact quiet.becomes

theorem Quiet.afterRename (quiet : world.Quiet) (source target : String) :
    Becomes world.disk world.date (world.afterRename source target) := by
  unfold World.afterRename
  split
  · exact quiet.becomes
  · exact quiet.followLog _

theorem Quiet.afterRemove (quiet : world.Quiet) (path : String) :
    Becomes world.disk world.date (world.afterRemove path) := by
  unfold World.afterRemove
  split
  · exact quiet.becomes
  · exact quiet.followLog _

theorem Becomes.onDisk {disk : Disk} {date : Option Date} (h : Becomes disk date world)
    (r : Request) : (world.onDisk r).1 = (answerOn disk r).1 ∧
      Becomes (answerOn disk r).2 date (world.onDisk r).2 := by
  obtain ⟨quiet, rfl, rfl⟩ := h
  exact ⟨rfl, quiet, rfl, rfl⟩

/-- What the disk answers on the day the surroundings answer as well. -/
theorem answer_eq {r : Request} (within : r.Within paths) (quiet : world.Quiet) :
    (answer r world).1 = (answerAt world.date world.disk r).1 ∧
      Becomes (answerAt world.date world.disk r).2 world.date (answer r world).2 := by
  cases r with
  | makeDirectory | isDirectory | create | write | sync | read =>
    exact ⟨rfl, quiet, rfl, rfl⟩
  | rename source target => exact (quiet.afterRename source target).onDisk (.rename source target)
  | remove path => exact (quiet.afterRemove path).onDisk (.remove path)
  | openLog style file =>
    cases within
    exact ⟨rfl, fun style location h => (by cases h), rfl, rfl⟩
  | report spans report => exact ⟨rfl, quiet.note spans report⟩
  | today => exact ⟨rfl, quiet.becomes⟩

/-- In surroundings without a log on the disk a program is carried out as on the disk. -/
theorem carryOut_eq_runOn {p : Program α} (h : p.Only (Request.Within paths))
    (quiet : world.Quiet) :
    (world.carryOut p).1 = (p.runOn world.date world.disk).1 ∧
      Becomes (p.runOn world.date world.disk).2 world.date (world.carryOut p).2 := by
  induction p generalizing world with
  | done a => exact ⟨rfl, quiet.becomes⟩
  | ask r next ih =>
    obtain ⟨within, later⟩ := only_ask_iff.1 h
    obtain ⟨same, becomes⟩ := answer_eq within quiet
    have later := ih _ (later (answer r world).1) becomes.quiet
    rw [carryOut_ask, Program.runOn]
    rw [becomes.disk, becomes.date] at later
    rw [same] at later ⊢
    exact later

/-! ## Runs of the tool -/

/-- The surroundings when the tool is started. -/
def started (world : World) : World := { world with log := none, shown := "" }

theorem quiet_started (world : World) : world.started.Quiet := fun _ _ h => by cases h

/-- Without a log on the disk, a run of the tool comes to what it comes to on the disk. -/
theorem run_eq_runOn {invocation : Invocation}
    (h : (CommandLine.run invocation).Only (Request.Within paths)) (world : World) :
    (world.run invocation).1.code =
        ((CommandLine.run invocation).runOn world.date world.disk).1.code ∧
      (world.run invocation).2.disk =
        ((CommandLine.run invocation).runOn world.date world.disk).2 := by
  obtain ⟨same, becomes⟩ := carryOut_eq_runOn h world.quiet_started
  have codes := congrArg Outcome.code same
  exact ⟨codes, becomes.disk⟩

/-- The surroundings after the tool has been run some times. -/
def runAll (world : World) (invocations : List Invocation) : World :=
  invocations.foldl (fun world invocation => (world.run invocation).2) world

end WidgetBindings.CommandLine.World
