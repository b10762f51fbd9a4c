import WidgetBindings.Proofs.Build.Counts
import WidgetBindings.Proofs.Declaration.Grammar
import WidgetBindings.Proofs.Overlay.Survival
import WidgetBindings.Proofs.Session.Command

/-!
# What every run of a session keeps

* `Sound`: what holds of a session at every point of a run, kept by each command (`sound_step`);
* `rescan_eq_map`: a scan does not depend on the session but for the notes that it adds to;
* `run_invariant`: both together, with what one more command may change.
-/

namespace WidgetBindings.Session

/-- A session on a project, with the identifiers that the last successful scan has found. -/
structure Sound (project : Project) (table : PrefixTable) (found : List String)
    (session : Session) : Prop where
  project : session.project = project
  table : session.table = table
  named : ∀ id ∈ session.store.identifiers, Declaration.IsIdentifier id.toList
  found : session.store.identifiers = found
  judged : session.lastScan.declarations =
    session.lastScan.mapped + session.lastScan.fallback + session.lastScan.rejected
  entered : session.store.size + session.lastScan.duplicates =
    session.lastScan.mapped + session.lastScan.fallback

variable {project : Project} {table : PrefixTable} {found : List String} {session left : Session}

theorem sound_new : (new project table).Sound project table [] :=
  ⟨rfl, rfl, fun _ h => (List.not_mem_nil h).elim, rfl, rfl, rfl⟩

/-- What a scan finds has the form of an identifier. -/
theorem named_of_scan {objectType text : String} {d : Declaration}
    (h : d ∈ Declaration.scan objectType text) : Declaration.IsIdentifier d.identifier.toList := by
  obtain ⟨line, _, _, on_line⟩ := Declaration.mem_scan_iff.1 h
  obtain ⟨before, ⟨p, ok, _, _, same⟩, _⟩ :=
    (Declaration.onLine?_eq_some_iff (Text.blankFree_trimChars _)).1 on_line
  exact same ▸ ok.name

/-- A scan makes a session sound, whatever it was before. -/
theorem sound_scanned (session : Session) (text : String) :
    (session.scanned text).Sound session.project session.table
      (session.scanned text).store.identifiers := by
  have balanced := Build.balanced_ofDeclarations session.rules
    (Declaration.scan session.project.objectType text)
  refine ⟨rfl, rfl, fun id mem => ?_, rfl, balanced.judged, balanced.entered⟩
  obtain ⟨d, hd, same⟩ := balanced.declared id mem
  exact same ▸ named_of_scan hd

/-- A session stays sound when its store changes but not the identifiers in it. -/
theorem Sound.of_identifiers (h : session.Sound project table found) {store : Store}
    (same : store.identifiers = session.store.identifiers) (notes : Notes) :
    { session with store, notes }.Sound project table found := by
  obtain ⟨hproject, htable, named, hfound, judged, entered⟩ := h
  have size : store.size = session.store.size := by
    rw [← store.length_identifiers, same, session.store.length_identifiers]
  exact ⟨hproject, htable, same ▸ named, same.trans hfound, judged, size ▸ entered⟩

/-- Each command keeps a session sound, and only a successful scan changes what was found. -/
theorem sound_step {command : Command} {reply : Reply} (h : session.Sound project table found)
    (step : (session.obey command).MayReturn (reply, left)) :
    left.Sound project table (if reply.isScan then left.store.identifiers else found) := by
  obtain ⟨scan, text, rfl⟩ | ⟨no_scan, rfl | ⟨document, rfl⟩ | ⟨id, edit, store, ok, rfl⟩⟩ :=
    obey_cases step
  · rw [if_pos scan]
    exact h.project ▸ h.table ▸ sound_scanned session text
  · simpa [no_scan] using h
  · rw [if_neg (by simp [no_scan])]
    exact h.of_identifiers (Document.identifiers_overlay document session.store) _
  · rw [if_neg (by simp [no_scan])]
    exact h.of_identifiers (Store.identifiers_edit ok) session.notes

theorem Run.sound {steps : List Step} (run : Run project table steps session) :
    session.Sound project table (lastScanned steps) := by
  induction run with
  | new => exact sound_new
  | step command _ outcome ih => exact sound_step ih outcome

/-- No command takes a note back. -/
theorem notes_kept {command : Command} {reply : Reply}
    (step : (session.obey command).MayReturn (reply, left)) :
    session.notes.lines <+: left.notes.lines := by
  obtain ⟨_, text, rfl⟩ | ⟨_, rfl | ⟨document, rfl⟩ | ⟨id, edit, store, ok, rfl⟩⟩ :=
    obey_cases step
  · exact List.prefix_append _ _
  · exact List.prefix_rfl
  · exact List.prefix_append _ _
  · exact List.prefix_rfl

/-! ## Scans do not depend on the session -/

/-- The session after it has taken over what a scan in a fresh session has come to. -/
def adopting (session fresh : Session) : Session :=
  { session with
    store := fresh.store
    notes := session.notes.append fresh.notes.lines
    lastScan := fresh.lastScan }

theorem scanned_eq_adopting (session : Session) (text : String) :
    session.scanned text = session.adopting ((new session.project session.table).scanned text) := by
  simp [scanned, adopting, new, Notes.append, Notes.empty, buildFrom, rules]

/-- A scan asks its surroundings for what a scan in a fresh session asks for, and takes over what
that one comes to. -/
theorem rescan_eq_map (session : Session) :
    session.rescan =
      Except.map session.adopting <$> (new session.project session.table).rescan := by
  rw [rescan, rescan, Program.map_within, map_bind]
  refine congrArg (Program.within _) (congrArg (Header.read _ >>= ·) (funext fun read => ?_))
  cases read with
  | error e => rfl
  | ok text =>
    simp only [map_bind, map_pure, Except.map, ← scanned_eq_adopting]
    rfl

/-- Opening a project is a run of two commands: a scan and a load. -/
theorem run_of_openProject (h : (openProject project).MayReturn (.ok session)) :
    ∃ scanned status, Run project .standard
      [⟨.load, .loaded status, session⟩, ⟨.rescan, .scanned (.ok scanned.lastScan), scanned⟩]
      session := by
  obtain ⟨outcome, scan, h⟩ := Program.mayReturn_bind_iff.1 h
  cases outcome with
  | error e => cases Program.mayReturn_pure_iff.1 h
  | ok scanned =>
    obtain ⟨⟨loaded, status⟩, load, h⟩ := Program.mayReturn_bind_iff.1 h
    cases Program.mayReturn_pure_iff.1 h
    have first : ((new project).obey .rescan).MayReturn
        (.scanned (.ok scanned.lastScan), scanned) :=
      Program.mayReturn_bind_iff.2 ⟨.ok scanned, scan, .done _⟩
    have second : (scanned.obey .load).MayReturn (.loaded status, session) :=
      Program.mayReturn_bind_iff.2 ⟨(session, status), load, .done _⟩
    exact ⟨scanned, status, (Run.new.step .rescan first).step .load second⟩

/-- **The invariant of sessions.** A project may be opened, or commands may come in any order; the
files may change in any way between them. Then the identifiers in the store are distinct, have the
form that the scanner looks for, and are those that the last successful scan has found; its counts
add up. One more command takes no note back, and changes the identifiers only if it is a scan that
succeeds. What a scan comes to is what it would come to in a fresh session, with the notes of that
session after the ones that were there. -/
theorem run_invariant (project : Project) :
    (∀ opened, (openProject project).MayReturn (.ok opened) → ∃ scanned status,
      Run project .standard
        [⟨.load, .loaded status, opened⟩, ⟨.rescan, .scanned (.ok scanned.lastScan), scanned⟩]
        opened) ∧
    ∀ (table : PrefixTable) (steps : List Step) (session : Session),
      Run project table steps session →
        session.store.identifiers.Nodup ∧
        (∀ id ∈ session.store.identifiers, Declaration.IsIdentifier id.toList) ∧
        session.store.identifiers = lastScanned steps ∧
        session.lastScan.declarations =
          session.lastScan.mapped + session.lastScan.fallback + session.lastScan.rejected ∧
        session.store.size + session.lastScan.duplicates =
          session.lastScan.mapped + session.lastScan.fallback ∧
        (∀ command reply left, (session.obey command).MayReturn (reply, left) →
          session.notes.lines <+: left.notes.lines ∧
          (reply.isScan = false → left.store.identifiers = session.store.identifiers)) ∧
        session.rescan = Except.map session.adopting <$> (new project table).rescan := by
  refine ⟨fun opened h => run_of_openProject h, fun table steps session run => ?_⟩
  have sound := run.sound
  have fresh := session.rescan_eq_map
  rw [sound.project, sound.table] at fresh
  refine ⟨session.store.nodup_identifiers, sound.named, sound.found, sound.judged, sound.entered,
    fun command reply left step => ⟨notes_kept step, fun no_scan => ?_⟩, fresh⟩
  have kept := (sound_step sound step).found
  rw [no_scan] at kept
  exact kept.trans sound.found.symm

/-- Commands, the last one first, with the disk on which each is carried out: a scan, an edit, a
command that fails because the header is gone, and another edit. -/
def smallRun : List (Command × Disk) := [
  (.change (.apply "ui_lbl_b" (.consume true)), ⟨∅, []⟩),
  (.rescan, ⟨∅, []⟩),
  (.change (.edit "ui_btn_a" "name" "Start"), ⟨∅, []⟩),
  (.rescan, ⟨Std.ExtTreeMap.empty.insert ["ui.h"] (.file (Text.toBytes
    "extern lv_obj_t * ui_btn_a;\nextern lv_obj_t * ui_lbl_b;\nextern lv_obj_t * ui_btn_a;\n")),
    []⟩)]

theorem run_invariant_small :
    Run {} .standard (performed {} .standard smallRun).1 (performed {} .standard smallRun).2 ∧
    (performed {} .standard smallRun).2.store.identifiers = ["ui_btn_a", "ui_lbl_b"] :=
  have run := run_performed {} .standard smallRun
  ⟨run, ((run_invariant {}).2 _ _ _ run).2.2.1.trans (by decide +kernel)⟩

end WidgetBindings.Session
