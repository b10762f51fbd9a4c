import WidgetBindings.Proofs.Disk.Tree
import WidgetBindings.Proofs.Session.Reopening

/-!
# Saves that fail or are cut off

A save replaces the document and then the source. The files lie side by side in one directory
(`SideBySide`), so neither replacement touches what the other one has done.

* `ensures_save`: all that a disk may be like during a save (`Saving`), and how the save may end;
* `save_leaves_old_or_new`: what that means for the two files and for a later load.
-/

namespace WidgetBindings

namespace Replacement

open Program Disk

variable {start disk : Disk} {path parent name : String} {bytes : List UInt8}

theorem Beside.congr (lies : Beside start path parent name) (same : disk.current = start.current) :
    Beside disk path parent name := by
  constructor
  · rw [place_congr same, place_congr same, lies.target]
  · rw [place_congr same, place_congr same, lies.beside]

/-- Whatever came before it, a replacement touches only the file beside until that takes its place.
-/
theorem ensures_replaceFile_after (above : Path.parent? path = some parent)
    (lies : Beside start path parent name) (plain : ∀ p ∈ Path.written path, ".." ∉ namesOf p)
    (past : List Event) :
    (replaceFile path bytes).Ensures
      (fun _ disk =>
        Grows [start.place (Path.temporary path)] (start.place parent) start disk ∨
          Moved start (start.place parent) path bytes disk)
      (Either (fun _ => Moved start (start.place parent) path bytes)
        (fun _ => Grows [start.place (Path.temporary path)] (start.place parent) start))
      past start := by
  have stages := @ensures_replaceFile start path bytes _ above
    (plain _ (Path.mem_written path)) (plain _ (Path.temporary_mem_written path))
  refine (stages.forget past).mono ?_ ?_
  · rintro _ disk ⟨_, stage⟩
    exact stage.grows_or_moved lies
  · rintro outcome _ disk _ ⟨_, ended⟩
    obtain ⟨rfl, moved⟩ | ⟨failed, undone⟩ := ended
    · exact .inl ⟨rfl, moved⟩
    · exact .inr ⟨failed, undone.grows lies⟩

end Replacement

namespace Session

open Program Disk Replacement

variable {project : Project} {parent documentName sourceName : String}
  {start between disk after : Disk} {document source : List UInt8}

/-! ## Side by side -/

/-- The document and the source lie in one directory, each with the file beside it. -/
structure SideBySide (start : Disk) (project : Project) (parent documentName sourceName : String) :
    Prop where
  above : Path.parent? project.documentPath = some parent
  document : Beside start project.documentPath parent documentName
  source : Beside start project.sourcePath parent sourceName
  plain : ∀ p ∈ project.outputPaths, ".." ∉ namesOf p

theorem sideBySide (start : Disk) (plain : ".." ∉ namesOf project.workingDirectory)
    (plain_name : ".." ∉ namesOf project.bindingName) :
    ∃ parent documentName sourceName,
      SideBySide start project parent documentName sourceName := by
  have document := Path.fileName?_append Project.isEnding_json project.outputBase
  have source := Path.fileName?_append Project.isEnding_cpp project.outputBase
  rw [← project.documentPath_eq] at document
  rw [← project.sourcePath_eq] at source
  obtain ⟨parent, above, at_document, beside_document, _⟩ := Path.place_temporary start document
  obtain ⟨parent', above', at_source, beside_source, _⟩ := Path.place_temporary start source
  rw [project.parent?_sourcePath, above] at above'
  cases above'
  exact ⟨parent, _, _, above, ⟨at_document, beside_document⟩, ⟨at_source, beside_source⟩,
    project.plain_outputPaths plain plain_name⟩

namespace SideBySide

variable (files : SideBySide start project parent documentName sourceName)

include files

theorem congr (same : disk.current = start.current) :
    SideBySide disk project parent documentName sourceName :=
  ⟨files.above, files.document.congr same, files.source.congr same, files.plain⟩

theorem plain_document : ∀ p ∈ Path.written project.documentPath, ".." ∉ namesOf p :=
  fun p hp => files.plain p (List.mem_append_left _ hp)

theorem plain_source : ∀ p ∈ Path.written project.sourcePath, ".." ∉ namesOf p :=
  fun p hp => files.plain p (List.mem_append_right _ hp)

/-- No file of the document is at or below a file of the source, nor the other way round. -/
theorem apart {p q : String} (hp : p ∈ Path.written project.documentPath)
    (hq : q ∈ Path.written project.sourcePath) :
    ¬ start.place p <+: start.place q ∧ ¬ start.place q <+: start.place p := by
  have differ := (List.pairwise_append.1 (project.pairwise_place start)).2.2 p hp q hq
  have deep {path name : String} (lies : Beside start path parent name) :
      ∀ r ∈ Path.written path, (start.place r).length = (start.place parent).length + 1 := by
    intro r hr
    simp only [Path.written, List.mem_cons, List.not_mem_nil, or_false] at hr
    obtain rfl | rfl := hr
    · rw [lies.target, List.length_append]
      rfl
    · rw [lies.beside, List.length_append]
      rfl
  have level := (deep files.document p hp).trans (deep files.source q hq).symm
  exact ⟨fun way => differ (way.eq_of_length level),
    fun way => differ (way.eq_of_length level.symm).symm⟩

/-- While only the file beside the document is touched, both files are as they were. -/
theorem kept_of_grows
    (grown : Grows [start.place (Path.temporary project.documentPath)] (start.place parent)
      start disk) :
    SameBelow (start.place project.documentPath) start disk ∧
      SameBelow (start.place project.sourcePath) start disk := by
  refine ⟨sameBelow_of_grows files.document grown,
    grown.sameBelow ?_ files.source.not_on_way.1⟩
  rw [List.forall_mem_singleton]
  exact (files.apart (Path.temporary_mem_written _) (Path.mem_written _)).2

/-- And so is what can be read. -/
theorem read_iff_of_grows (tree : start.IsTree)
    (grown : Grows [start.place (Path.temporary project.documentPath)] (start.place parent)
      start disk) (bytes : List UInt8) :
    disk.read project.documentPath = .ok bytes ↔ start.read project.documentPath = .ok bytes := by
  have plain := files.plain_document project.documentPath (Path.mem_written _)
  have free : ∀ l ∈ [start.place (Path.temporary project.documentPath)],
      ¬ l <+: start.place project.documentPath := by
    rw [List.forall_mem_singleton]
    exact files.document.not_below.2
  have same := (files.kept_of_grows grown).1 _ List.prefix_rfl
  exact ⟨grown.read_back tree plain free same, grown.read plain free⟩

end SideBySide

/-! ## The stages of a save -/

/-- The document has been replaced, and the source is as it was. -/
structure HalfWay (start : Disk) (project : Project) (document : List UInt8) (disk : Disk) :
    Prop where
  current : disk.current = start.current
  written : disk.read project.documentPath = .ok document
  kept : SameBelow (start.place project.sourcePath) start disk

/-- The document has been replaced, and so has the source. -/
def Whole (project : Project) (document source : List UInt8) (disk : Disk) : Prop :=
  disk.read project.documentPath = .ok document ∧ disk.read project.sourcePath = .ok source

section

variable (files : SideBySide start project parent documentName sourceName)

include files

theorem HalfWay.of_moved
    (moved : Moved start (start.place parent) project.documentPath document disk) :
    HalfWay start project document disk := by
  obtain ⟨grown, _, written, _⟩ := moved.spec files.document
  refine ⟨grown.current, written, grown.sameBelow ?_ files.source.not_on_way.1⟩
  rw [List.forall_mem_cons, List.forall_mem_singleton]
  exact ⟨(files.apart (Path.mem_written _) (Path.mem_written _)).2,
    (files.apart (Path.temporary_mem_written _) (Path.mem_written _)).2⟩

/-- What is touched for the source leaves the document readable. -/
theorem HalfWay.read_document {touched : List Location}
    (half : HalfWay start project document between)
    (mem : ∀ l ∈ touched, ∃ q ∈ Path.written project.sourcePath, l = between.place q)
    (grown : Grows touched (between.place parent) between disk) :
    disk.read project.documentPath = .ok document := by
  refine grown.read (files.plain_document _ (Path.mem_written _)) (fun l hl => ?_) half.written
  obtain ⟨q, hq, rfl⟩ := mem l hl
  exact ((files.congr half.current).apart (Path.mem_written _) hq).2

/-- Until the source is replaced, it is as it was. -/
theorem HalfWay.grows (half : HalfWay start project document between)
    (grown : Grows [between.place (Path.temporary project.sourcePath)] (between.place parent)
      between disk) : HalfWay start project document disk := by
  have lies := (files.congr half.current).source
  refine ⟨grown.current.trans half.current,
    half.read_document files (by simp [Path.written]) grown, fun l under => ?_⟩
  have under' : between.place project.sourcePath <+: l := by rwa [place_congr half.current]
  exact (sameBelow_of_grows lies grown l under').trans (half.kept l under)

theorem HalfWay.whole (half : HalfWay start project document between)
    (moved : Moved between (between.place parent) project.sourcePath source disk) :
    Whole project document source disk := by
  obtain ⟨grown, _, written, _⟩ := moved.spec (files.congr half.current).source
  exact ⟨half.read_document files (by simp [Path.written]) grown, written⟩

end

variable {session : Session} {options : Source.Options}

/-- The bytes of the document of a session. -/
def documentBytes (session : Session) : List UInt8 :=
  Text.toBytes (Document.ofStore session.store).text

/-- The bytes of the source of a session. -/
def sourceBytes (session : Session) (options : Source.Options) : List UInt8 :=
  Text.toBytes (Source.text session.store options)

/-- All that a disk may be like while a session is saved. -/
inductive Saving (session : Session) (options : Source.Options) (start : Disk) (below : Location)
    (disk : Disk) : Prop
  | before (h : Grows [start.place (Path.temporary session.project.documentPath)] below start disk)
  | half (h : HalfWay start session.project session.documentBytes disk)
  | whole (h : Whole session.project session.documentBytes (session.sourceBytes options) disk)

/-- How a save may end, and what the disk is like then. -/
inductive Ended (session : Session) (options : Source.Options) (start : Disk) (below : Location)
    (disk : Disk) : Except SessionError SaveReport → Prop
  | document (e : DocumentError)
      (h : Grows [start.place (Path.temporary session.project.documentPath)] below start disk) :
      Ended session options start below disk (.error (.document e))
  | source (e : WriteError) (h : HalfWay start session.project session.documentBytes disk) :
      Ended session options start below disk (.error (.source e))
  | saved (h : Whole session.project session.documentBytes (session.sourceBytes options) disk) :
      Ended session options start below disk (.ok ⟨session.project.documentPath,
        session.project.sourcePath, Source.text session.store options⟩)

theorem ensures_save
    (files : SideBySide start session.project parent documentName sourceName) :
    (session.save options).Ensures (fun _ => Saving session options start (start.place parent))
      (fun outcome _ disk => Ended session options start (start.place parent) disk outcome)
      [] start := by
  rw [save]
  refine ensures_bind (ensures_bind
    ((ensures_replaceFile_after files.above files.document files.plain_document []).mono
      ?_ fun outcome past between _ ended => ?_))
  · rintro _ disk (grown | moved)
    · exact .before grown
    · exact .half (.of_moved files moved)
  obtain ⟨rfl, moved⟩ | ⟨⟨e, rfl⟩, grown⟩ := ended
  · have half := HalfWay.of_moved files moved
    have files' := files.congr half.current
    refine ensures_request (.half half) fun answer after granted => ?_
    obtain rfl := granted
    refine ensures_pure (.half half) (ensures_bind (ensures_bind
      ((ensures_replaceFile_after (session.project.parent?_sourcePath.trans files.above)
        files'.source files.plain_source _).mono ?_ fun outcome past disk _ ended => ?_)))
    · rintro _ disk (grown | moved)
      · exact .half (half.grows files grown)
      · exact .whole (half.whole files moved)
    obtain ⟨rfl, moved⟩ | ⟨⟨e, rfl⟩, grown⟩ := ended
    · have whole := half.whole files moved
      refine ensures_request (.whole whole) fun answer after granted => ?_
      obtain rfl := granted
      exact ensures_pure (.whole whole) (ensures_pure (.whole whole) (.saved whole))
    · have still := half.grows files grown
      exact ensures_pure (.half still) (ensures_pure (.half still) (.source e still))
  · exact ensures_pure (.before grown) (ensures_pure (.before grown) (.document _ grown))

/-! ## What is left behind -/

/-- A load that cannot read the document leaves the session as it was. -/
theorem load_run_of_unread {failure : Failure}
    (held : disk.read session.project.documentPath = .error failure) :
    (session.load.run disk).1.1 = session := by
  cases failure <;> simp [load, Document.loadFor, Document.load?, held, Document.decode]

/-- A load depends on nothing but what can be read. -/
theorem load_run_congr (same : ∀ bytes, after.read session.project.documentPath = .ok bytes ↔
      disk.read session.project.documentPath = .ok bytes) :
    (session.load.run after).1.1 = (session.load.run disk).1.1 := by
  cases held : disk.read session.project.documentPath with
  | ok bytes =>
    have held' := (same bytes).2 held
    simp only [load, Document.loadFor, Document.load?, run_bind, run_read, run_pure, held, held']
    cases Document.decode session.project.documentPath (.ok bytes) with
    | error e => cases e <;> simp
    | ok document => cases document <;> simp
  | error failure =>
    cases held' : after.read session.project.documentPath with
    | ok bytes => cases held.symm.trans ((same bytes).1 held')
    | error failure' => rw [load_run_of_unread held, load_run_of_unread held']

/-- **After a save that fails or is cut off, each file is the old one or the new one.** Any request
may fail, a file that is written may be spoiled, and the save may be cut off at any point. The files
that it writes are four different ones. At each point both files are as they were, or the document
has all the new text and the source is as it was, or the source is new as well. Both are as they
were if the document could not be saved; only the document is new if the source could not be saved;
after a success both are new. A later load finds the old document or the new one, and the disk is a
tree again. -/
theorem save_leaves_old_or_new (plain : ".." ∉ namesOf session.project.workingDirectory)
    (plain_name : ".." ∉ namesOf session.project.bindingName) (tree : disk.IsTree)
    {events : List Event} {rest : Program (Except SessionError SaveReport)}
    (reached : (session.save options).Reaches disk events rest after) :
    let document := session.project.documentPath
    let source := session.project.sourcePath
    let documentKept := SameBelow (disk.place document) disk after
    let sourceKept := SameBelow (disk.place source) disk after
    let documentNew := after.read document = .ok session.documentBytes
    let sourceNew := after.read source = .ok (session.sourceBytes options)
    session.project.outputPaths.Pairwise (fun p q => disk.place p ≠ disk.place q) ∧
    (documentKept ∧ sourceKept ∨ documentNew ∧ sourceKept ∨ documentNew ∧ sourceNew) ∧
    (∀ e, rest = pure (.error e) →
      (∃ d, e = .document d) ∧ documentKept ∧ sourceKept ∨
        (∃ w, e = .source w) ∧ documentNew ∧ sourceKept) ∧
    (∀ report, rest = pure (.ok report) →
      report = ⟨document, source, Source.text session.store options⟩ ∧ documentNew ∧ sourceNew) ∧
    (∀ other : Session, other.project.documentPath = document →
      (other.load.run after).1.1 = (other.load.run disk).1.1 ∨
        (other.load.run after).1 = (other.overlaid (.ofStore session.store),
          .loaded ((Document.ofStore session.store).summary other.store))) ∧
    after.IsTree := by
  intro document source documentKept sourceKept documentNew sourceNew
  obtain ⟨parent, documentName, sourceName, files⟩ := sideBySide disk plain plain_name
  have ensured := Ensures.of_reaches (ensures_save files) reached
  refine ⟨session.project.pairwise_place disk, ?_, ?_, ?_, ?_, tree.reached reached⟩
  · cases ensured.now with
    | before grown => exact .inl (files.kept_of_grows grown)
    | half half => exact .inr (.inl ⟨half.written, half.kept⟩)
    | whole whole => exact .inr (.inr whole)
  · rintro e rfl
    cases ensured.at_end with
    | document e grown => exact .inl ⟨⟨e, rfl⟩, files.kept_of_grows grown⟩
    | source e half => exact .inr ⟨⟨e, rfl⟩, half.written, half.kept⟩
  · rintro report rfl
    cases ensured.at_end with
    | saved whole => exact ⟨rfl, whole⟩
  · intro other same
    have new (written : documentNew) : (other.load.run after).1 = _ :=
      congrArg Prod.fst (load_run_of_read (same ▸ written) (Document.ofBytes_ofStore session.store))
    cases ensured.now with
    | before grown =>
      refine .inl (load_run_congr fun bytes => ?_)
      rw [same]
      exact files.read_iff_of_grows tree grown bytes
    | half half => exact .inr (new half.written)
    | whole whole => exact .inr (new whole.1)

/-- A disk with a document, and with a directory where the source is to go. -/
def blockedDisk : Disk :=
  (((⟨∅, []⟩ : Disk).put ["ui_binding.json"] (.file (Text.toBytes "\x7b\x7d"))).put
    ["ui_binding.cpp"] .directory).put ["ui_binding.cpp", "kept"] (.file [7])

theorem isTree_blockedDisk : blockedDisk.IsTree := by
  have empty : IsTree ⟨∅, []⟩ := fun l name there => by
    simp [at?] at there
  have document := @IsTree.put _ empty [] "ui_binding.json" rfl
    (.file (Text.toBytes "\x7b\x7d")) (by decide +kernel)
  have directory := @IsTree.put _ document [] "ui_binding.cpp" rfl .directory (by decide +kernel)
  exact @IsTree.put _ directory ["ui_binding.cpp"] "kept" (by decide +kernel) (.file [7])
    (by decide +kernel)

/-- A session with one entry. -/
def smallSession : Session :=
  (new {} .standard).scanned "extern lv_obj_t * ui_btn_a;"

/-- Whether the document was saved but not the source. -/
def endsHalfWay : Except SessionError SaveReport → Bool
  | .error (.source _) => true
  | .error _ | .ok _ => false

/-- The source cannot take the place of a directory: the document is new, and what is in the
directory is still there. -/
theorem save_leaves_old_or_new_blocked : ∃ e after,
    (smallSession.save {}).run blockedDisk = (.error (.source e), after) ∧
      after.read "./ui_binding.json" = .ok smallSession.documentBytes ∧
      after.at? ["ui_binding.cpp", "kept"] = some (.file [7]) := by
  have half : endsHalfWay ((smallSession.save {}).run blockedDisk).1 = true := by decide +kernel
  have reached := reaches_run (smallSession.save {}) blockedDisk
  cases ran : (smallSession.save {}).run blockedDisk with
  | mk outcome after =>
    rw [ran] at half reached
    cases outcome with
    | ok report => cases half
    | error error =>
      cases error with
      | header | edit | document => cases half
      | source e =>
        obtain ⟨_, _, failed, _⟩ := save_leaves_old_or_new (by decide +kernel)
          (by decide +kernel) isTree_blockedDisk reached
        obtain ⟨⟨_, other⟩, _⟩ | ⟨_, written, kept⟩ := failed _ rfl
        · cases other
        · have place : blockedDisk.place smallSession.project.sourcePath = ["ui_binding.cpp"] := by
            decide +kernel
          rw [place] at kept
          have path : smallSession.project.documentPath = "./ui_binding.json" := by decide +kernel
          rw [path] at written
          refine ⟨e, after, rfl, written, ?_⟩
          exact (kept ["ui_binding.cpp", "kept"] ⟨["kept"], rfl⟩).trans (by decide +kernel)

end Session

end WidgetBindings
