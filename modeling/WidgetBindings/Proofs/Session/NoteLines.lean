import WidgetBindings.Proofs.Build.Selection
import WidgetBindings.Proofs.Json.Compact
import WidgetBindings.Proofs.Overlay.Accounting
import WidgetBindings.Proofs.Session.Invariant
import WidgetBindings.Proofs.Source.Layout
import WidgetBindings.Proofs.Text.Lines
import WidgetBindings.Proofs.Text.Split

/-!
# Notes and the lines that they are shown on

Notes are shown one after the other, each with a line feed at its end, and nothing in them is
escaped. So a note is one line unless there is a line feed in it.

* `oneEach_iff`: each note is shown on a line of its own exactly if no note has a line feed in it;
* `noFeed_scanned`: no header brings one;
* `noFeed_overlaid`: a document brings one by an identifier that is gone or by a rejected key, and
  by nothing else in it;
* `one_line_each_iff`: so a whole run shows each note on a line of its own exactly if no load has
  told of such a name.
-/

namespace WidgetBindings

/-! ## Notes as they are shown -/

namespace Notes

/-- What stands between the line feeds when notes are shown. Nothing stands behind the last one. -/
def shown (notes : Notes) : List (List Char) := Text.splitOn '\n' notes.display.toList

/-- Each note is shown on a line of its own. -/
def OneEach (notes : Notes) : Prop := notes.shown = notes.lines.map String.toList ++ [[]]

/-- No note has a line feed in it. -/
def NoFeed (lines : List String) : Prop := ∀ note ∈ lines, '\n' ∉ note.toList

theorem noFeed_append {lines more : List String} :
    NoFeed (lines ++ more) ↔ NoFeed lines ∧ NoFeed more :=
  List.forall_mem_append

theorem toList_display (notes : Notes) :
    notes.display.toList = Text.unlines (notes.lines.map String.toList) := by
  rw [display, String.toList_join, List.flatMap_map, Text.unlines, List.flatMap_map]
  simp

/-- Each line feed in a note starts a new line, and so does the end of a note. -/
theorem shown_eq (notes : Notes) :
    notes.shown = notes.lines.flatMap (fun note => Text.splitOn '\n' note.toList) ++ [[]] := by
  rw [shown, toList_display]
  induction notes.lines with
  | nil => rfl
  | cons note lines ih =>
    rw [List.map_cons, Text.unlines_cons, Text.splitOn_append_cons, ih, List.flatMap_cons,
      List.append_assoc]

/-- There are never fewer lines than notes, and only as many if no note has a line feed in it. -/
theorem noFeed_of_length_le {lines : List String}
    (h : (lines.flatMap fun note => Text.splitOn '\n' note.toList).length ≤ lines.length) :
    NoFeed lines := by
  have each (lines : List String) :
      lines.length ≤ (lines.flatMap fun note => Text.splitOn '\n' note.toList).length := by
    induction lines with
    | nil => exact Nat.le_refl 0
    | cons note lines ih =>
      rw [List.flatMap_cons, List.length_append, Text.length_splitOn, List.length_cons]
      omega
  induction lines with
  | nil => exact fun note mem => by cases mem
  | cons note lines ih =>
    rw [List.flatMap_cons, List.length_append, Text.length_splitOn, List.length_cons] at h
    have others := each lines
    refine List.forall_mem_cons.2 ⟨?_, ih (by omega)⟩
    exact List.count_eq_zero.1 (by omega)

theorem oneEach_iff (notes : Notes) : notes.OneEach ↔ NoFeed notes.lines := by
  constructor
  · intro one
    have same := congrArg List.length (notes.shown_eq.symm.trans one)
    rw [List.length_append, List.length_append, List.length_map] at same
    apply noFeed_of_length_le
    omega
  · rw [OneEach, shown_eq, List.append_cancel_right_eq]
    induction notes.lines with
    | nil => exact fun _ => rfl
    | cons note lines ih =>
      intro free
      obtain ⟨first, others⟩ := List.forall_mem_cons.1 free
      rw [List.flatMap_cons, Text.splitOn_of_not_mem first, ih others]
      rfl

end Notes

/-! ## What brings a line feed -/

theorem feed_staleNote {identifier : String} :
    '\n' ∈ (staleNote identifier).toList ↔ '\n' ∈ identifier.toList := by
  unfold staleNote
  simp only [String.toList_append, toString]
  simp

/-- A value is told on one line, so only its key can bring a line feed. -/
theorem feed_unsupportedNote {member : String × Json} :
    '\n' ∈ (unsupportedNote member).toList ↔ '\n' ∈ member.1.toList := by
  unfold unsupportedNote
  simp only [String.toList_append, toString]
  simp [Json.noFeed_compact]

theorem noFeed_rejectionNote {strippedName : String} (h : '\n' ∉ strippedName.toList) :
    '\n' ∉ (rejectionNote strippedName).toList := by
  unfold rejectionNote
  simp only [String.toList_append, toString]
  simpa using h

/-- Taking the constant prefix off a name adds nothing to it. -/
theorem Classifier.mem_of_mem_strip {rules : Classifier} {identifier : String} {c : Char}
    (h : c ∈ rules.strip identifier) : c ∈ identifier.toList := by
  unfold strip at h
  cases after : Text.after? rules.constantPrefix.toList identifier.toList with
  | none => simpa [after] using h
  | some rest =>
    rw [after, Option.getD_some] at h
    rw [Text.after?_eq_some_iff.1 after]
    exact List.mem_append_right _ h

/-- Nothing that is told of a scan has a line feed in it: a declared identifier has none. -/
theorem Build.noFeed_notes (rules : Classifier) (objectType text : String) :
    Notes.NoFeed (Build.ofDeclarations rules (Declaration.scan objectType text)).notes := by
  intro note mem
  rw [(selected_ofDeclarations rules _).notes] at mem
  obtain ⟨d, declared, told⟩ := List.mem_filterMap.1 mem
  obtain ⟨name, rejected, rfl⟩ := Option.map_eq_some_iff.1 told
  rw [Classifier.rejectedName?_classify] at rejected
  split at rejected
  · cases rejected
    apply noFeed_rejectionNote
    intro feed
    rw [String.toList_ofList] at feed
    have named := Session.named_of_scan declared
    exact named.not_mem (by decide) (by decide) (Classifier.mem_of_mem_strip feed)
  · cases rejected

/-- What a load tells of has no line feed in it. -/
structure LoadSummary.OneLine (summary : LoadSummary) : Prop where
  stale : ∀ identifier ∈ summary.staleIdentifiers, '\n' ∉ identifier.toList
  rejected : ∀ key ∈ summary.rejectedKeys, '\n' ∉ key.toList

/-- The notes of a load, by what they tell of. -/
theorem Document.mem_notes_iff {document : Document} {store : Store} {note : String} :
    note ∈ document.notes store ↔
      (∃ identifier ∈ (document.summary store).staleIdentifiers, note = staleNote identifier) ∨
      ∃ member ∈ document.values.filter (isRejected store), note = unsupportedNote member := by
  rw [(notes_perm store document).mem_iff, List.mem_append, List.mem_map, List.mem_map]
  simp only [eq_comm]

theorem Document.noFeed_notes (document : Document) (store : Store) :
    Notes.NoFeed (document.notes store) ↔ (document.summary store).OneLine := by
  have keys := rejectedKeys_eq store document
  constructor
  · intro free
    refine ⟨fun identifier gone feed => ?_, fun key listed feed => ?_⟩
    · exact free _ (mem_notes_iff.2 (.inl ⟨identifier, gone, rfl⟩)) (feed_staleNote.2 feed)
    · rw [keys] at listed
      obtain ⟨member, rejected, rfl⟩ := List.mem_map.1 listed
      exact free _ (mem_notes_iff.2 (.inr ⟨member, rejected, rfl⟩)) (feed_unsupportedNote.2 feed)
  · intro oneLine note told feed
    obtain ⟨identifier, gone, rfl⟩ | ⟨member, rejected, rfl⟩ := mem_notes_iff.1 told
    · exact oneLine.stale identifier gone (feed_staleNote.1 feed)
    · have listed : member.1 ∈ (document.summary store).rejectedKeys :=
        keys ▸ List.mem_map_of_mem rejected
      exact oneLine.rejected member.1 listed (feed_unsupportedNote.1 feed)

namespace Session

variable {project : Project} {table : PrefixTable} {steps : List Step} {session left : Session}

theorem noFeed_scanned (session : Session) (text : String) :
    Notes.NoFeed (session.scanned text).notes.lines ↔ Notes.NoFeed session.notes.lines := by
  change Notes.NoFeed (session.notes.lines ++ _) ↔ _
  rw [Notes.noFeed_append]
  exact and_iff_left (Build.noFeed_notes session.rules session.project.objectType text)

theorem noFeed_overlaid (session : Session) (document : Document) :
    Notes.NoFeed (session.overlaid document).notes.lines ↔
      Notes.NoFeed session.notes.lines ∧ (document.summary session.store).OneLine := by
  change Notes.NoFeed (session.notes.lines ++ _) ↔ _
  rw [Notes.noFeed_append, Document.noFeed_notes]

/-! ## Runs -/

/-- What a load has come to, if a command was a load that has laid a document over the store. -/
def Reply.summary? : Reply → Option LoadSummary
  | loaded (.loaded summary) => some summary
  | loaded .missing | loaded .unparsable | loaded .unreadable => none
  | scanned _ | changed _ | saved _ => none

theorem mayReturn_load_status {status : LoadStatus}
    (h : session.load.MayReturn (left, status)) :
    (left = session ∧ (Reply.loaded status).summary? = none) ∨
      ∃ document, left = session.overlaid document ∧
        status = .loaded (document.summary session.store) := by
  obtain ⟨read, _, h⟩ := Program.mayReturn_bind_iff.1 h
  cases read with
  | ok found =>
    cases found with
    | none =>
      cases Program.mayReturn_pure_iff.1 h
      exact .inl ⟨rfl, rfl⟩
    | some document =>
      cases Program.mayReturn_pure_iff.1 h
      exact .inr ⟨document, rfl, rfl⟩
  | error e =>
    obtain ⟨_, _, h⟩ := Program.mayReturn_bind_iff.1 h
    cases e <;>
      · cases Program.mayReturn_pure_iff.1 h
        exact .inl ⟨rfl, rfl⟩

/-- What a command adds to the notes: what is told of a header, what is told of a document, or
nothing. The reply says whether it was a document. -/
theorem obey_tells {command : Command} {reply : Reply}
    (h : (session.obey command).MayReturn (reply, left)) :
    (reply.summary? = none ∧ left.notes = session.notes) ∨
    (reply.summary? = none ∧ ∃ text, left = session.scanned text) ∨
    ∃ document, reply.summary? = some (document.summary session.store) ∧
      left = session.overlaid document := by
  cases command with
  | rescan =>
    obtain ⟨outcome, scan, h⟩ := Program.mayReturn_bind_iff.1 h
    obtain ⟨text, rfl⟩ | ⟨e, rfl⟩ := mayReturn_rescan scan
    · cases Program.mayReturn_pure_iff.1 h
      exact .inr (.inl ⟨rfl, text, rfl⟩)
    · cases Program.mayReturn_pure_iff.1 h
      exact .inl ⟨rfl, rfl⟩
  | load =>
    obtain ⟨⟨loaded, status⟩, load, h⟩ := Program.mayReturn_bind_iff.1 h
    cases Program.mayReturn_pure_iff.1 h
    obtain ⟨rfl, none⟩ | ⟨document, rfl, rfl⟩ := mayReturn_load_status load
    · exact .inl ⟨none, rfl⟩
    · exact .inr (.inr ⟨document, rfl, rfl⟩)
  | change change =>
    obtain ⟨outcome, made, h⟩ := Program.mayReturn_bind_iff.1 h
    obtain ⟨identifier, edit, store, _, rfl⟩ | ⟨e, rfl⟩ := mayReturn_change made
    · cases Program.mayReturn_pure_iff.1 h
      exact .inl ⟨rfl, rfl⟩
    · cases Program.mayReturn_pure_iff.1 h
      exact .inl ⟨rfl, rfl⟩
  | save options =>
    obtain ⟨outcome, _, h⟩ := Program.mayReturn_bind_iff.1 h
    cases Program.mayReturn_pure_iff.1 h
    exact .inl ⟨rfl, rfl⟩

/-- No note of a run has a line feed in it exactly if no load has told of a name that has one. -/
theorem Run.noFeed_iff (run : Run project table steps session) :
    Notes.NoFeed session.notes.lines ↔
      ∀ step ∈ steps, ∀ summary ∈ step.reply.summary?, summary.OneLine := by
  induction run with
  | new => exact iff_of_true (fun _ mem => by cases mem) (fun _ mem => by cases mem)
  | step command _ outcome ih =>
    rw [List.forall_mem_cons, ← ih]
    obtain ⟨silent, same⟩ | ⟨silent, text, rfl⟩ | ⟨document, told, rfl⟩ := obey_tells outcome
    · simp [silent, same]
    · simp [silent, noFeed_scanned]
    · simp [told, noFeed_overlaid, and_comm]

/-- A note on a name with a line feed in it, which the reply to a load has told of. -/
def Step.TellsOver (step : Step) (note : String) : Prop :=
  ∃ summary ∈ step.reply.summary?,
    (∃ identifier ∈ summary.staleIdentifiers,
      '\n' ∈ identifier.toList ∧ note = staleNote identifier) ∨
    ∃ key ∈ summary.rejectedKeys, ∃ value,
      '\n' ∈ key.toList ∧ note = unsupportedNote (key, value)

/-- A note with a line feed in it tells of a name that some load has told of. -/
theorem Run.told_of_feed (run : Run project table steps session) {note : String}
    (mem : note ∈ session.notes.lines) (feed : '\n' ∈ note.toList) :
    ∃ step ∈ steps, step.TellsOver note := by
  induction run with
  | new => cases mem
  | @step steps session command reply left _ outcome ih =>
    -- A note that was there already has been told of by one of the steps before.
    have before : note ∈ session.notes.lines →
        ∃ step ∈ ⟨command, reply, left⟩ :: steps, step.TellsOver note := by
      intro old
      obtain ⟨step, there, told⟩ := ih old
      exact ⟨step, List.mem_cons_of_mem _ there, told⟩
    obtain ⟨_, same⟩ | ⟨_, text, rfl⟩ | ⟨document, told, rfl⟩ := obey_tells outcome
    · exact before (same ▸ mem)
    · obtain old | new := List.mem_append.1 mem
      · exact before old
      · exact absurd feed (Build.noFeed_notes _ _ _ _ new)
    · obtain old | new := List.mem_append.1 mem
      · exact before old
      · refine ⟨_, List.mem_cons_self, _, told, ?_⟩
        obtain ⟨identifier, stale, rfl⟩ | ⟨member, rejected, rfl⟩ := Document.mem_notes_iff.1 new
        · exact .inl ⟨identifier, stale, feed_staleNote.1 feed, rfl⟩
        · refine .inr ⟨member.1, ?_, member.2, feed_unsupportedNote.1 feed, rfl⟩
          rw [Document.rejectedKeys_eq]
          exact List.mem_map_of_mem rejected

/-- **A run shows each note on a line of its own exactly if no load has told of a name with a line
feed in it.** Notes are shown as the lines that each of them comes apart into. Nothing in a header
brings a line feed into a note, and of a document neither a value does nor an identifier or a key
that there is no note on: a note that has one tells of a gone identifier or of a rejected key that
has it. -/
theorem one_line_each_iff (run : Run project table steps session) :
    session.notes.shown =
      session.notes.lines.flatMap (fun note => Text.splitOn '\n' note.toList) ++ [[]] ∧
    (session.notes.OneEach ↔
      ∀ step ∈ steps, ∀ summary ∈ step.reply.summary?, summary.OneLine) ∧
    ∀ note ∈ session.notes.lines, '\n' ∈ note.toList → ∃ step ∈ steps, step.TellsOver note := by
  refine ⟨session.notes.shown_eq, ?_, fun note mem feed => run.told_of_feed mem feed⟩
  rw [Notes.oneEach_iff]
  exact run.noFeed_iff

/-- A header, and a document whose one variable is a gone identifier with a line feed in it. -/
def forgingDisk : Disk where
  nodes := (Std.ExtTreeMap.empty.insert ["ui.h"] (.file (Text.toBytes
    "extern lv_obj_t * ui_btn_a;\n"))).insert ["ui_binding.json"] (.file (Text.toBytes
    "\x7b\"variables\":[\"ui_gone\\nui_forged\"]\x7d"))
  current := []

/-- Commands, the last one first, with the disk on which each is carried out. -/
def forgingRun : List (Command × Disk) := [(.load, forgingDisk), (.rescan, forgingDisk)]

/-- What a document brings: one note, which is shown on two lines. -/
theorem note_over_two_lines :
    Run {} .standard (performed {} .standard forgingRun).1 (performed {} .standard forgingRun).2 ∧
    (performed {} .standard forgingRun).2.notes.lines.length = 1 ∧
    ¬ (performed {} .standard forgingRun).2.notes.OneEach :=
  ⟨run_performed {} .standard forgingRun, by decide +kernel, by
    rw [Notes.oneEach_iff]
    unfold Notes.NoFeed
    decide +kernel⟩

theorem one_line_each_iff_forged :
    Run {} .standard (performed {} .standard forgingRun).1 (performed {} .standard forgingRun).2 ∧
    ∃ note ∈ (performed {} .standard forgingRun).2.notes.lines,
      ∃ step ∈ (performed {} .standard forgingRun).1, step.TellsOver note := by
  have run := run_performed {} .standard forgingRun
  have lines : (performed {} .standard forgingRun).2.notes.lines =
      [staleNote "ui_gone\nui_forged"] := by
    decide +kernel
  have told : staleNote "ui_gone\nui_forged" ∈
      (performed {} .standard forgingRun).2.notes.lines :=
    lines ▸ List.mem_singleton_self _
  exact ⟨run, _, told, (one_line_each_iff run).2.2 _ told (by decide +kernel)⟩

end Session

end WidgetBindings
