import WidgetBindings.Proofs.CommandLine.Surroundings
import WidgetBindings.Proofs.Project.Outputs
import WidgetBindings.Proofs.Session.Failure

/-!
# The header is only read

A save writes to four files: the document, the source, and beside each one the file in which it is
prepared. No other file is written to by the commands of a session (`only_obeyAll`), nor by the tool
(`only_run`), and what does not save writes to no file at all (`onlyLooks_obeyAll`,
`onlyLooks_perform`). So the header stays as it is unless something is saved and its path leads to
one of the four (`header_only_read`).
-/

namespace WidgetBindings

open Program

variable {project : Project} {disk after : Disk}

/-- The path of the header leads to none of the files that a save writes to. -/
def Project.HeaderApart (project : Project) (disk : Disk) : Prop :=
  ∀ path ∈ project.outputPaths, disk.location path ≠ disk.location project.headerPath

/-! ## Sessions -/

namespace Session

theorem only_save (session : Session) (options : Source.Options) :
    (session.save options).Only (Request.Timeless session.project.outputPaths) := by
  have replace {path : String} (sub : Path.written path ⊆ session.project.outputPaths)
      (bytes : List UInt8) :
      (replaceFile path bytes).Only (Request.Timeless session.project.outputPaths) :=
    (only_replaceFile path bytes).mono fun _ => Request.Timeless.mono sub
  have document : ((Document.ofStore session.store).save session.project.documentPath).Only
      (Request.Timeless session.project.outputPaths) := by
    rw [Document.save]
    refine only_bind (replace (List.subset_append_left ..) _) fun outcome _ => ?_
    cases outcome with
    | error e => exact only_pure _
    | ok _ => exact only_bind (only_request trivial) fun _ _ => only_pure _
  have source : (Source.save session.store options session.project.sourcePath).Only
      (Request.Timeless session.project.outputPaths) := by
    rw [Source.save]
    refine only_bind (replace (List.subset_append_right ..) _) fun outcome _ => ?_
    cases outcome with
    | error e => exact only_pure _
    | ok _ => exact only_bind (only_request trivial) fun _ _ => only_pure _
  rw [save]
  refine only_bind document fun outcome _ => ?_
  cases outcome with
  | error e => exact only_pure _
  | ok _ =>
    refine only_bind source fun outcome _ => ?_
    cases outcome <;> exact only_pure _

/-- Carries out commands one after the other. -/
def obeyAll (session : Session) : List Command → Program Session
  | [] => pure session
  | command :: rest => do
    let outcome ← session.obey command
    outcome.2.obeyAll rest

theorem only_obey (session : Session) (command : Command) :
    (session.obey command).Only (Request.Within session.project.outputPaths) := by
  cases command with
  | save options =>
    have saving := (session.only_save options).mono fun _ => Request.Timeless.within
    exact only_bind saving fun _ _ => only_pure _
  | rescan => exact (onlyLooks_obey fun _ h => by cases h).within
  | load => exact (onlyLooks_obey fun _ h => by cases h).within
  | change change => exact (onlyLooks_obey fun _ h => by cases h).within

theorem project_obey {session left : Session} {command : Command} {reply : Reply}
    (h : (session.obey command).MayReturn (reply, left)) : left.project = session.project := by
  obtain ⟨_, text, rfl⟩ | ⟨_, rfl | ⟨document, rfl⟩ | ⟨id, edit, store, ok, rfl⟩⟩ := obey_cases h
  · rfl
  · rfl
  · rfl
  · rfl

/-- Commands change the files of a save only, in any order and any number. -/
theorem only_obeyAll (session : Session) (commands : List Command) :
    (session.obeyAll commands).Only (Request.Within session.project.outputPaths) := by
  induction commands generalizing session with
  | nil => exact only_pure _
  | cons command rest ih =>
    refine only_bind (session.only_obey command) fun outcome h => ?_
    rw [← project_obey h]
    exact ih outcome.2

/-- Commands change no file unless one of them is a save. -/
theorem onlyLooks_obeyAll (session : Session) {commands : List Command}
    (h : ∀ options, .save options ∉ commands) : (session.obeyAll commands).OnlyLooks := by
  induction commands generalizing session with
  | nil => trivial
  | cons command rest ih =>
    have first : ∀ options, command ≠ .save options := by
      rintro options rfl
      exact h options (List.mem_cons_self ..)
    exact onlyLooks_bind (onlyLooks_obey first) fun outcome =>
      ih outcome.2 fun options mem => h options (List.mem_cons_of_mem _ mem)

theorem project_load {session left : Session} {status : LoadStatus}
    (h : session.load.MayReturn (left, status)) : left.project = session.project := by
  obtain rfl | ⟨document, rfl⟩ := mayReturn_load h
  · rfl
  · rfl

theorem project_edit {session left : Session} {identifier field value : String}
    (h : (session.edit identifier field value).MayReturn (.ok left)) :
    left.project = session.project := by
  obtain ⟨_, _, _, _, same⟩ | ⟨_, same⟩ :=
    @mayReturn_change session (.edit identifier field value) _ h
  · cases same
    rfl
  · cases same

end Session

/-! ## The tool -/

namespace CommandLine

theorem onlyLooks_openSession (project : Project) : (openSession project).OnlyLooks := by
  refine onlyLooks_bind (onlyLooks_bind (Session.onlyLooks_rescan _) fun outcome => ?_)
    fun outcome => ?_
  · cases outcome with
    | error e => trivial
    | ok session => exact onlyLooks_bind session.onlyLooks_load fun _ => trivial
  · cases outcome <;> trivial

theorem project_openSession {session : Session}
    (h : (openSession project).MayReturn (.ok session)) : session.project = project := by
  obtain ⟨outcome, opened, h⟩ := mayReturn_bind_iff.1 h
  cases outcome with
  | error e => cases mayReturn_pure_iff.1 h
  | ok session =>
    cases mayReturn_pure_iff.1 h
    obtain ⟨outcome, scan, h⟩ := mayReturn_bind_iff.1 opened
    cases outcome with
    | error e => cases mayReturn_pure_iff.1 h
    | ok scanned =>
      obtain ⟨⟨left, status⟩, load, h⟩ := mayReturn_bind_iff.1 h
      cases mayReturn_pure_iff.1 h
      obtain ⟨text, same⟩ | ⟨e, same⟩ := Session.mayReturn_rescan scan
      · cases same
        exact Session.project_load load
      · cases same

theorem onlyLooks_assignAll (identifier : String) (session : Session) (texts : List String) :
    (assignAll identifier session texts).OnlyLooks := by
  induction texts generalizing session with
  | nil => trivial
  | cons text rest ih =>
    rw [assignAll]
    split
    · trivial
    · rename_i field value _
      refine onlyLooks_bind (session.onlyLooks_change (.edit identifier field value))
        fun outcome => ?_
      cases outcome with
      | error e => trivial
      | ok session => exact ih session

theorem project_assignAll {identifier : String} {session left : Session} {texts : List String}
    (h : (assignAll identifier session texts).MayReturn (.ok left)) :
    left.project = session.project := by
  induction texts generalizing session with
  | nil =>
    cases mayReturn_pure_iff.1 h
    rfl
  | cons text rest ih =>
    rw [assignAll] at h
    split at h
    · cases mayReturn_pure_iff.1 h
    · obtain ⟨outcome, edit, h⟩ := mayReturn_bind_iff.1 h
      cases outcome with
      | error e => cases mayReturn_pure_iff.1 h
      | ok session => exact (ih h).trans (Session.project_edit edit)

theorem only_saveFiles (session : Session) (output : Output) :
    (saveFiles session output).Only (Request.Within session.project.outputPaths) := by
  have dated : (banner output).Only (Request.Within session.project.outputPaths) := by
    unfold banner
    split
    · exact only_pure _
    · exact only_bind (only_request trivial) fun _ _ => only_pure _
  rw [saveFiles]
  refine only_bind dated fun banner _ => ?_
  refine only_bind ((session.only_save _).mono fun _ => Request.Timeless.within) fun outcome _ => ?_
  cases outcome <;> exact only_pure _

theorem only_perform (project : Project) (command : Command) :
    (perform project command).Only (Request.Within project.outputPaths) := by
  have opening {f : Except Problem Session → Program (Except Problem String)}
      (next : ∀ session, session.project = project →
        (f (.ok session)).Only (Request.Within project.outputPaths))
      (failed : ∀ problem, (f (.error problem)).Only (Request.Within project.outputPaths)) :
      (openSession project >>= f).Only (Request.Within project.outputPaths) := by
    refine only_bind (onlyLooks_openSession project).within fun outcome h => ?_
    cases outcome with
    | error problem => exact failed problem
    | ok session => exact next session (project_openSession h)
  cases command with
  | types => exact only_pure _
  | list json => exact opening (fun _ _ => only_pure _) fun _ => only_pure _
  | notes => exact opening (fun _ _ => only_pure _) fun _ => only_pure _
  | generate output =>
    refine opening (fun session same => ?_) fun _ => only_pure _
    rw [← same]
    exact only_saveFiles session output
  | edit identifier assignments output =>
    refine opening (fun session same => ?_) fun _ => only_pure _
    refine only_span (only_bind (onlyLooks_assignAll identifier session _).within
      fun outcome h => ?_)
    cases outcome with
    | error problem => exact only_pure _
    | ok left =>
      rw [← same, ← project_assignAll h]
      exact only_saveFiles left output

/-- Whether a command of the tool saves a session. -/
def Command.saves : Command → Bool
  | .edit .. | .generate _ => true
  | .list _ | .notes | .types => false

/-- A command that does not save changes no file. -/
theorem onlyLooks_perform (project : Project) {command : Command} (h : command.saves = false) :
    (perform project command).OnlyLooks := by
  cases command with
  | types => trivial
  | list json => exact onlyLooks_bind (onlyLooks_openSession project) fun _ => trivial
  | notes => exact onlyLooks_bind (onlyLooks_openSession project) fun _ => trivial
  | generate output => cases h
  | edit identifier assignments output => cases h

section

variable {invocation : Invocation} {settings : Settings} {command : Command}
  (parsed : parse invocation.arguments = .ok (settings, command))
  (no_log : settings.logFile = none)
include parsed no_log

/-- Without a file for the log, a run changes no files but those that its command changes. -/
theorem only_run_of_perform {paths : List String}
    (h : (perform settings.project command).Only (Request.Within paths)) :
    (run invocation).Only (Request.Within paths) := by
  rw [run, parsed]
  refine only_bind (only_request no_log) fun opened _ => ?_
  cases opened with
  | error failure => exact only_pure _
  | ok _ => exact only_bind h fun _ _ => only_pure _

/-- Without a file for the log, a run changes the files of a save only. -/
theorem only_run : (run invocation).Only (Request.Within settings.project.outputPaths) :=
  only_run_of_perform parsed no_log (only_perform settings.project command)

end

/-! ## What becomes of the header -/

/-- Arguments for work on a project that leave the log to error output. -/
def Unlogged (project : Project) (invocation : Invocation) : Prop :=
  ∃ settings command, parse invocation.arguments = .ok (settings, command) ∧
    settings.project = project ∧ settings.logFile = none

/-- Arguments for a command that saves. -/
def Saving (invocation : Invocation) : Prop :=
  ∃ settings command, parse invocation.arguments = .ok (settings, command) ∧ command.saves

section

variable {invocation : Invocation} {paths : List String}

theorem Unlogged.only_run (h : Unlogged project invocation) :
    (run invocation).Only (Request.Within project.outputPaths) := by
  obtain ⟨settings, command, parsed, rfl, no_log⟩ := h
  exact CommandLine.only_run parsed no_log

theorem Unlogged.only_run_of_not_saving (h : Unlogged project invocation)
    (looks : ¬ Saving invocation) : (run invocation).Only (Request.Within []) := by
  obtain ⟨settings, command, parsed, _, no_log⟩ := h
  have saves : command.saves = false := by
    by_contra saves
    exact looks ⟨settings, command, parsed, eq_true_of_ne_false saves⟩
  exact only_run_of_perform parsed no_log (onlyLooks_perform settings.project saves).within

theorem World.keeps_run (h : (CommandLine.run invocation).Only (Request.Within paths))
    (world : World) :
    Disk.Keeps (paths.map world.disk.location) world.disk (world.run invocation).2.disk := by
  obtain ⟨events, reached⟩ := reaches_runOn world.date (CommandLine.run invocation) world.disk
  rw [(run_eq_runOn h world).2]
  exact h.keeps reached

/-- Runs of the tool keep all files but those that each of them may change. -/
theorem World.keeps_runAll {invocations : List Invocation}
    (h : ∀ invocation ∈ invocations, (CommandLine.run invocation).Only (Request.Within paths))
    (world : World) :
    Disk.Keeps (paths.map world.disk.location) world.disk (world.runAll invocations).disk := by
  induction invocations generalizing world with
  | nil => exact .refl _ _
  | cons invocation rest ih =>
    obtain ⟨now, later⟩ := List.forall_mem_cons.1 h
    have first := world.keeps_run now
    have others := ih later (world.run invocation).2
    rw [show _ = world.disk.location from funext first.location_eq] at others
    exact first.trans others

end

/-- **The header is only read.** A save writes to four files: the document, the source, and the ones
beside them in which they are prepared. If nothing is saved, or if the path of the header leads to
none of them, then the header holds the same bytes wherever commands of a session, or one run of the
tool, are cut off and whatever fails, and after any runs of the tool that keep no log on the
disk. -/
theorem header_only_read {bytes : List UInt8}
    (held : disk.read project.headerPath = .ok bytes) :
    (∀ (session : Session) (commands : List Session.Command) (events : List Event)
        (rest : Program Session) (after : Disk), session.project = project →
      ((∃ options, .save options ∈ commands) → project.HeaderApart disk) →
      (session.obeyAll commands).Reaches disk events rest after →
      after.read project.headerPath = .ok bytes) ∧
    (∀ (invocation : Invocation) (events : List Event) (rest : Program Outcome) (after : Disk),
      Unlogged project invocation → (Saving invocation → project.HeaderApart disk) →
      (CommandLine.run invocation).Reaches disk events rest after →
      after.read project.headerPath = .ok bytes) ∧
    ∀ (invocations : List Invocation) (world : World),
      (∀ invocation ∈ invocations, Unlogged project invocation) →
      ((∃ invocation ∈ invocations, Saving invocation) → project.HeaderApart disk) →
      world.disk = disk →
      (world.runAll invocations).disk.read project.headerPath = .ok bytes := by
  have apart_none : ∀ path ∈ ([] : List String),
      disk.location path ≠ disk.location project.headerPath := fun _ h => by cases h
  refine ⟨fun session commands events rest after same apart reached => ?_,
    fun invocation events rest after unlogged apart reached => ?_,
    fun invocations world unlogged apart same => ?_⟩
  · subst same
    by_cases saves : ∃ options, .save options ∈ commands
    · exact ((session.only_obeyAll commands).keeps reached).read_apart (apart saves) held
    · have looks := session.onlyLooks_obeyAll (not_exists.1 saves)
      exact (looks.within.keeps reached).read_apart apart_none held
  · by_cases saves : Saving invocation
    · exact (unlogged.only_run.keeps reached).read_apart (apart saves) held
    · exact ((unlogged.only_run_of_not_saving saves).keeps reached).read_apart apart_none held
  · subst same
    by_cases saves : ∃ invocation ∈ invocations, Saving invocation
    · have only := fun invocation mem => (unlogged invocation mem).only_run
      exact (world.keeps_runAll only).read_apart (apart saves) held
    · have only := fun invocation mem => (unlogged invocation mem).only_run_of_not_saving
        fun saving => saves ⟨invocation, mem, saving⟩
      exact (world.keeps_runAll only).read_apart apart_none held

/-- A header of one declaration. -/
def smallHeader : String := "extern lv_obj_t * ui_btn_a;\n"

/-- Surroundings with the header, and a file that is no document in its place. -/
def smallWorld : World where
  disk := {
    nodes := (Std.ExtTreeMap.empty.insert ["ui.h"] (.file (Text.toBytes smallHeader))).insert
      ["ui_binding.json"] (.file [])
    current := [] }

/-- The arguments of two runs, the second one for files with notes and without a banner. -/
def twoRuns : List Invocation :=
  [{ arguments := ["edit", "ui_btn_a", "name = Start", "pro=yes"] },
    { arguments := ["-w", ".", "generate", "--diagnostic", "--no-banner"] }]

theorem unlogged_twoRuns : ∀ invocation ∈ twoRuns, Unlogged {} invocation := by
  refine List.forall_mem_cons.2 ⟨⟨_, _, rfl, rfl, rfl⟩, List.forall_mem_singleton.2 ?_⟩
  exact ⟨_, _, rfl, rfl, rfl⟩

/-- A project with one name for its header and its document. -/
def sharedProject : Project := { includeFile := "ui_binding.json" }

def sharedDisk : Disk where
  nodes := Std.ExtTreeMap.empty.insert ["ui_binding.json"] (.file (Text.toBytes smallHeader))
  current := []

/-- The header stays as it is where it is apart from the files that are saved, and where it is one
of them but nothing is saved. -/
theorem header_only_read_small :
    let after := ((Session.new {}).obeyAll [.rescan, .load, .save {}]).run smallWorld.disk
    let shared := ((Session.new sharedProject).obeyAll [.rescan, .load]).run sharedDisk
    after.2.read "./ui.h" = .ok (Text.toBytes smallHeader) ∧
    after.2.read "./ui_binding.json" ≠ smallWorld.disk.read "./ui_binding.json" ∧
    (smallWorld.runAll twoRuns).disk.read "./ui.h" = .ok (Text.toBytes smallHeader) ∧
    shared.2.read sharedProject.headerPath = .ok (Text.toBytes smallHeader) := by
  have apart : ({} : Project).HeaderApart smallWorld.disk := by
    unfold Project.HeaderApart
    decide +kernel
  have held : smallWorld.disk.read ({} : Project).headerPath =
      .ok (Text.toBytes smallHeader) := by
    decide +kernel
  have held_shared : sharedDisk.read sharedProject.headerPath =
      .ok (Text.toBytes smallHeader) := by
    decide +kernel
  obtain ⟨commands, _, runs⟩ := header_only_read held
  obtain ⟨looking, _⟩ := header_only_read held_shared
  refine ⟨commands (.new {}) _ _ _ _ rfl (fun _ => apart) (reaches_run _ _), by decide +kernel,
    runs twoRuns smallWorld unlogged_twoRuns (fun _ => apart) rfl, ?_⟩
  refine looking (.new sharedProject) _ _ _ _ rfl (fun saves => ?_) (reaches_run _ _)
  obtain ⟨options, mem⟩ := saves
  simp at mem

/-- Nothing keeps a save from a header that goes by the name of an output. -/
theorem header_overwritten :
    sharedDisk.read sharedProject.headerPath = .ok (Text.toBytes smallHeader) ∧
    (((Session.new sharedProject).obeyAll [.rescan, .save {}]).run sharedDisk).2.read
        sharedProject.headerPath ≠ .ok (Text.toBytes smallHeader) := by
  decide +kernel

end CommandLine

end WidgetBindings
