import WidgetBindings.Proofs.CommandLine.Assignments
import WidgetBindings.Proofs.CommandLine.Header
import WidgetBindings.Proofs.Session.Opening
import WidgetBindings.Proofs.Store.LastEdit

/-!
# Editing is all or nothing

The tool opens the project, makes all assignments in memory, and saves only if every one of them was
made.

* `openSession_runOn_ok`: the store of a project as it is opened;
* `perform_edit_fails`, `perform_edit_saves`: an edit that fails touches no file, and any other
  comes to a save of the store with all assignments made;
* `edit_all_or_nothing`: both, for runs of the tool.
-/

namespace WidgetBindings

open Program

variable {project : Project} {disk after : Disk}

/-! ## Files that have been written -/

/-- The document has been replaced, and then the source. -/
def Project.Writes (project : Project) (document source : List UInt8) (disk after : Disk) : Prop :=
  ∃ between, (replaceFile project.documentPath document).run disk = (.ok (), between) ∧
    (replaceFile project.sourcePath source).run between = (.ok (), after)

/-- Both files hold what has been written, wherever the paths lead: the document is none of the
files that are touched for the source. -/
theorem Project.Writes.read {document source : List UInt8}
    (h : project.Writes document source disk after) :
    after.read project.documentPath = .ok document ∧
      after.read project.sourcePath = .ok source := by
  obtain ⟨between, first, second⟩ := h
  refine ⟨?_, read_of_replaceFile second⟩
  have reached := reaches_run (replaceFile project.sourcePath source) between
  have keeps := (only_replaceFile project.sourcePath source).mono (fun _ => Request.Timeless.within)
    |>.keeps reached
  rw [second] at keeps
  have across := (List.pairwise_append.1 (project.pairwise_location between)).2.2
  exact keeps.read_apart
    (fun q mem => (across _ (Path.mem_written _) q mem).symm) (read_of_replaceFile first)

/-- A save succeeds exactly if both files can be written. -/
theorem Session.writes_iff {session : Session} {options : Source.Options} {after : Disk} :
    session.project.Writes (Text.toBytes (Document.ofStore session.store).text)
        (Text.toBytes (Source.text session.store options)) disk after ↔
      ∃ report, (session.save options).run disk = (.ok report, after) := by
  simp only [Session.save_run_iff, exists_eq_left, Project.Writes]

namespace CommandLine

variable (date : Option Date) (disk : Disk)

/-! ## Opening a project -/

variable {disk}

theorem openSession_runOn_error {e : HeaderError}
    (unread : Header.decode project.headerPath (disk.read project.headerPath) = .error e) :
    ∃ problem, (openSession project).runOn date disk = (.error problem, disk) := by
  simp only [openSession, runOn_bind, Session.openProject_runOn_error date unread, runOn_pure]
  exact ⟨_, rfl⟩

theorem openSession_runOn_ok {text : String}
    (read : Header.decode project.headerPath (disk.read project.headerPath) = .ok text) :
    ∃ session, (openSession project).runOn date disk = (.ok session, disk) ∧
      session.project = project ∧ session.store = project.openedStore disk text := by
  obtain ⟨session, opened, same, store⟩ := Session.openProject_runOn_ok date read
  refine ⟨session, ?_, same, store⟩
  simp only [openSession, runOn_bind, opened, runOn_pure]

/-! ## Saving -/

/-- The banner of the files that are made on a day, unless there is to be none. -/
def bannerOn (output : Output) : Option Source.Banner :=
  if output.noBanner then none else date.map fun day => ⟨toolName, toolVersion, day⟩

/-- How the source of a project is made on a day. -/
def optionsOn (project : Project) (output : Output) : Source.Options :=
  ⟨project.includeFile, output.diagnostic, bannerOn date output⟩

theorem banner_runOn (output : Output) (disk : Disk) :
    (banner output).runOn date disk = (bannerOn date output, disk) := by
  unfold banner bannerOn
  split
  · rfl
  · rfl

/-- The tool succeeds in saving a session exactly if both files can be written. -/
theorem saveFiles_runOn (session : Session) (output : Output) (disk : Disk) :
    ∃ outcome after, (saveFiles session output).runOn date disk = (outcome, after) ∧
      ((∃ text, outcome = .ok text) ↔ ∃ written, session.project.Writes
        (Text.toBytes (Document.ofStore session.store).text)
        (Text.toBytes (Source.text session.store (optionsOn date session.project output)))
        disk written) ∧
      ∀ written, session.project.Writes (Text.toBytes (Document.ofStore session.store).text)
        (Text.toBytes (Source.text session.store (optionsOn date session.project output)))
        disk written → after = written := by
  have timeless :=
    (session.only_save (optionsOn date session.project output)).runOn_eq_run date disk
  have options : session.sourceOptions output.diagnostic (bannerOn date output) =
    optionsOn date session.project output := rfl
  simp only [saveFiles, runOn_bind, banner_runOn, options, timeless, Session.writes_iff]
  generalize (session.save (optionsOn date session.project output)).run disk = saved
  obtain ⟨outcome, after⟩ := saved
  cases outcome with
  | error e => exact ⟨_, after, rfl, by simp, by simp⟩
  | ok report => exact ⟨_, after, rfl, by simp, by simp⟩

/-! ## Editing -/

theorem ne_nil_of_parse {arguments : List String} {settings : Settings} {identifier : String}
    {assignments : List String} {output : Output}
    (parsed : parse arguments = .ok (settings, .edit identifier assignments output)) :
    assignments ≠ [] := by
  obtain ⟨⟨outer, inner⟩, _, parsed⟩ := bind_eq_ok_iff.1 parsed
  cases inner with
  | none => cases parsed
  | some inner =>
    obtain ⟨⟨given, _⟩, _, parsed⟩ := bind_eq_ok_iff.1 parsed
    simp only at parsed
    split at parsed
    · cases parsed
    · rename_i command found
      split at parsed
      · cases parsed
        cases scope : inner.1 <;> simp only [command?, scope] at found <;> try cases found
        split at found
        · cases found
          exact List.cons_ne_nil _ _
        · cases found
      · cases parsed

theorem code_conclude (outcome : Except Problem String) :
    ((conclude outcome).code = 0 ∨ (conclude outcome).code = 1) ∧
      ((conclude outcome).code = 0 ↔ ∃ text, outcome = .ok text) := by
  cases outcome <;> simp [conclude, Problem.outcome]

variable {settings : Settings} {invocation : Invocation} {command : Command}

/-- A run of the tool comes to its command. -/
theorem run_runOn (parsed : parse invocation.arguments = .ok (settings, command))
    (no_log : settings.logFile = none) :
    (run invocation).runOn date disk =
      (conclude ((perform settings.project command).runOn date disk).1,
        ((perform settings.project command).runOn date disk).2) := by
  have opened : (openLog (settings.style invocation) none).runOn date disk = (.ok (), disk) := rfl
  rw [run, parsed]
  simp only [runOn_bind, no_log, opened, runOn_pure]

variable {identifier : String} {assignments : List String} {output : Output}

/-- Before anything is saved, an edit can fail for the header, for one of the arguments, or for the
entry. -/
inductive CannotEdit (disk : Disk) (project : Project) (identifier : String)
    (assignments : List String) : Prop
  | header {e : HeaderError}
      (unread : Header.decode project.headerPath (disk.read project.headerPath) = .error e)
  | argument {text : String} (mem : text ∈ assignments) (flawed : Flawed text)
  | entry {text : String}
      (read : Header.decode project.headerPath (disk.read project.headerPath) = .ok text)
      (absent : identifier ∉ (project.scannedStore text).identifiers)

theorem perform_edit_fails (output : Output) (some_given : assignments ≠ [])
    (h : CannotEdit disk project identifier assignments) :
    ∃ problem, (perform project (.edit identifier assignments output)).runOn date disk =
      (.error problem, disk) := by
  rw [perform, runOn_bind]
  cases read : Header.decode project.headerPath (disk.read project.headerPath) with
  | error e =>
    obtain ⟨problem, opened⟩ := openSession_runOn_error date read
    exact ⟨problem, by rw [opened, runOn_pure]⟩
  | ok text =>
    obtain ⟨session, opened, same, store⟩ := openSession_runOn_ok date read
    have wrong : (∃ text ∈ assignments, Flawed text) ∨
        assignments ≠ [] ∧ identifier ∉ session.store.identifiers := by
      cases h with
      | header unread => cases unread.symm.trans read
      | argument mem flawed => exact .inl ⟨_, mem, flawed⟩
      | entry read' absent =>
        cases read'.symm.trans read
        exact .inr ⟨some_given, by rwa [store, Project.identifiers_openedStore]⟩
    obtain ⟨problem, failed⟩ := assignAll_flawed date disk wrong
    refine ⟨problem, ?_⟩
    simp only [opened, editAndSave, runOn_within, runOn_bind, failed, runOn_pure]

/-- Any other edit comes to a save of the store with all assignments made. -/
theorem perform_edit_saves (output : Output)
    (h : ¬ CannotEdit disk project identifier assignments) :
    ∃ text edits final outcome after,
      Header.decode project.headerPath (disk.read project.headerPath) = .ok text ∧
      List.Forall₂ Asks assignments edits ∧
      edits.foldlM (fun store edit => store.edit identifier edit)
        (project.openedStore disk text) = .ok final ∧
      (perform project (.edit identifier assignments output)).runOn date disk = (outcome, after) ∧
      ((∃ text, outcome = .ok text) ↔ ∃ written, project.Writes
        (Text.toBytes (Document.ofStore final).text)
        (Text.toBytes (Source.text final (optionsOn date project output))) disk written) ∧
      ∀ written, project.Writes (Text.toBytes (Document.ofStore final).text)
        (Text.toBytes (Source.text final (optionsOn date project output))) disk written →
        after = written := by
  cases read : Header.decode project.headerPath (disk.read project.headerPath) with
  | error e => exact absurd (.header read) h
  | ok text =>
    have sound : ∀ text ∈ assignments, ¬ Flawed text := fun _ mem flawed => h (.argument mem flawed)
    have present : identifier ∈ (project.openedStore disk text).identifiers := by
      rw [Project.identifiers_openedStore]
      exact Classical.not_not.1 fun absent => h (.entry read absent)
    obtain ⟨session, opened, rfl, store⟩ := openSession_runOn_ok date read
    rw [← store] at present
    obtain ⟨edits, final, asked, made, run⟩ := assignAll_made date disk sound present
    obtain ⟨outcome, after, saved, success, written⟩ :=
      saveFiles_runOn date { session with store := final } output disk
    refine ⟨text, edits, final, outcome, after, rfl, asked, store ▸ made, ?_,
      success, written⟩
    simp only [perform, runOn_bind, opened, editAndSave, runOn_within, run, saved]

/-- **Editing is all or nothing.** The tool is told to edit an entry, with no log on the disk. If
the header cannot be read, if any argument is flawed, or if the entry is not among those of the
header, then it exits with 1 and no file has changed. Otherwise each argument asks for an edit, and
all of them are made, the first one first, on the store that is scanned, with the old document laid
over it if that can be used. So a field of the entry ends with the value of the last edit of it, and
all other fields hold what they held. The tool exits with 0 exactly if the document of that store
and then the source made from it can be written. Then both files hold them. -/
theorem edit_all_or_nothing
    (parsed : parse invocation.arguments = .ok (settings, .edit identifier assignments output))
    (no_log : settings.logFile = none) (world : World) :
    let project := settings.project
    let disk := world.disk
    let code := (world.run invocation).1.code
    let after := (world.run invocation).2.disk
    (CannotEdit disk project identifier assignments → code = 1 ∧ after = disk) ∧
    (¬ CannotEdit disk project identifier assignments →
      ∃ text edits final,
        Header.decode project.headerPath (disk.read project.headerPath) = .ok text ∧
        List.Forall₂ Asks assignments edits ∧
        edits.foldlM (fun store edit => store.edit identifier edit)
          (project.openedStore disk text) = .ok final ∧
        final.identifiers = (project.openedStore disk text).identifiers ∧
        (∀ e ∈ (project.openedStore disk text).toList,
          ∃ e', final.get? e.identifier = some e' ∧ ∀ field, e'.value field =
            (Store.lastEdit? (edits.map (identifier, ·)) (e.identifier, field)).elim
              (e.value field) Edit.value) ∧
        let document := Text.toBytes (Document.ofStore final).text
        let source := Text.toBytes (Source.text final (optionsOn world.date project output))
        (code = 0 ∨ code = 1) ∧
        (code = 0 ↔ ∃ written, project.Writes document source disk written) ∧
        ∀ written, project.Writes document source disk written → after = written ∧
          after.read project.documentPath = .ok document ∧
          after.read project.sourcePath = .ok source) := by
  intro project disk code after
  obtain ⟨codes, disks⟩ := World.run_eq_runOn (only_run parsed no_log) world
  rw [run_runOn world.date parsed no_log] at codes disks
  constructor
  · intro cannot
    obtain ⟨problem, failed⟩ :=
      perform_edit_fails world.date output (ne_nil_of_parse parsed) cannot
    rw [failed] at codes disks
    exact ⟨codes, disks⟩
  · intro can
    obtain ⟨text, edits, final, outcome, last, read, asked, made, run, success, written⟩ :=
      perform_edit_saves world.date output can
    rw [run] at codes disks
    have codes : code = (conclude outcome).code := codes
    have disks : after = last := disks
    obtain ⟨either, zero⟩ := code_conclude outcome
    rw [codes, disks]
    have all := Store.editAll_of_foldlM made
    refine ⟨text, edits, final, read, asked, made, ?_, fun e he => ?_, either,
      zero.trans success, fun there h => ?_⟩
    · rw [← all, Store.identifiers_editAll]
    · rw [← all]
      exact Store.value_editAll _ he
    · obtain rfl := written there h
      exact ⟨rfl, h.read⟩

/-- Arguments with white space around the name of a field and an equals sign in its value. -/
def goodArguments : List String := [" name =a = b", "pro=Yes"]

/-- Arguments of which only the last one is flawed. -/
def flawedArguments : List String := ["name=c", "pro=yes", "id=ui_btn_b"]

theorem cannotEdit_flawedArguments :
    CannotEdit smallWorld.disk {} "ui_btn_a" flawedArguments := by
  have flawed : Flawed ("id" ++ "=" ++ "ui_btn_b") := .immutableField (by decide) (by decide)
  exact .argument (by decide) flawed

theorem canEdit_goodArguments : ¬ CannotEdit smallWorld.disk {} "ui_btn_a" goodArguments := by
  have read : Header.decode ({} : Project).headerPath
      (smallWorld.disk.read ({} : Project).headerPath) = .ok smallHeader := by
    decide +kernel
  have name : Asks (" name " ++ "=" ++ "a = b") (.displayName "a = b") :=
    .edit (by decide) (show _ ∈ Field.displayName.names by decide) rfl
  have produce : Asks ("pro" ++ "=" ++ "Yes") (.produce true) :=
    .edit (by decide) (show _ ∈ Field.produce.names by decide) (by decide)
  intro cannot
  cases cannot with
  | header unread => cases unread.symm.trans read
  | argument mem flawed =>
    simp only [goodArguments, List.mem_cons, List.not_mem_nil, or_false] at mem
    obtain rfl | rfl := mem
    · exact name.not_flawed flawed
    · exact produce.not_flawed flawed
  | entry read' absent =>
    cases read'.symm.trans read
    exact absent (by decide +kernel)

/-- The arguments of a run that edits the entry. -/
def editing (assignments : List String) : Invocation :=
  { arguments := ["edit", "ui_btn_a"] ++ assignments }

theorem edit_all_or_nothing_small :
    (smallWorld.run (editing flawedArguments)).1.code = 1 ∧
    (smallWorld.run (editing flawedArguments)).2.disk = smallWorld.disk ∧
    ∃ text edits final,
      List.Forall₂ Asks goodArguments edits ∧
      edits.foldlM (fun store edit => store.edit "ui_btn_a" edit)
        (({} : Project).openedStore smallWorld.disk text) = .ok final ∧
      (smallWorld.run (editing goodArguments)).1.code = 0 ∧
      (smallWorld.run (editing goodArguments)).2.disk.read "./ui_binding.json" =
        .ok (Text.toBytes (Document.ofStore final).text) := by
  have flawed : ∃ settings, parse (editing flawedArguments).arguments = .ok (settings,
      .edit "ui_btn_a" flawedArguments ⟨false, false⟩) ∧ settings.project = {} ∧
      settings.logFile = none := ⟨_, rfl, rfl, rfl⟩
  have good : ∃ settings, parse (editing goodArguments).arguments = .ok (settings,
      .edit "ui_btn_a" goodArguments ⟨false, false⟩) ∧ settings.project = {} ∧
      settings.logFile = none := ⟨_, rfl, rfl, rfl⟩
  have exit : (smallWorld.run (editing goodArguments)).1.code = 0 := by decide +kernel
  obtain ⟨settings, parsed, project, no_log⟩ := flawed
  have fails := (edit_all_or_nothing parsed no_log smallWorld).1
  rw [project] at fails
  obtain ⟨code, same⟩ := fails cannotEdit_flawedArguments
  obtain ⟨settings', parsed', project', no_log'⟩ := good
  have saves := (edit_all_or_nothing parsed' no_log' smallWorld).2
  rw [project'] at saves
  obtain ⟨text, edits, final, _, asked, made, _, _, _, zero, written⟩ :=
    saves canEdit_goodArguments
  obtain ⟨there, h⟩ := zero.1 exit
  exact ⟨code, same, text, edits, final, asked, made, exit, (written there h).2.1⟩

end CommandLine

end WidgetBindings
