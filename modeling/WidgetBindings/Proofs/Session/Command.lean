import WidgetBindings.Session
import WidgetBindings.Proofs.Program.Outcome

/-!
# Runs of commands

An operator works on a session by commands. Each gets a reply, and the session goes on from what the
command has left of it, which is the session as it was if the command has failed. A run is any
sequence of commands from a new session. Nothing is said about the surroundings: between two
commands, and between two requests of one command, files may change in any way.
-/

namespace WidgetBindings.Session

/-- A change of one field that an operator may ask for, in words or as an edit. -/
inductive Change
  | edit (identifier field value : String)
  | apply (identifier : String) (edit : Edit)

/-- What an operator may ask of a session. -/
inductive Command
  | rescan
  | load
  | change (change : Change)
  | save (options : Source.Options)

/-- The reply to a command. -/
inductive Reply
  | scanned (outcome : Except SessionError ScanSummary)
  | loaded (status : LoadStatus)
  | changed (outcome : Except SessionError Unit)
  | saved (outcome : Except SessionError SaveReport)

/-- Whether a command was a scan that has succeeded. -/
def Reply.isScan : Reply → Bool
  | scanned (.ok _) => true
  | scanned (.error _) | loaded _ | changed _ | saved _ => false

/-- Makes a change. -/
def change (session : Session) : Change → Program (Except SessionError Session)
  | .edit identifier field value => session.edit identifier field value
  | .apply identifier edit => session.apply identifier edit

/-- The session after a change, with the reply. A change that is refused changes nothing. -/
def settle (session : Session) : Except SessionError Session → Reply × Session
  | .ok changed => (.changed (.ok ()), changed)
  | .error e => (.changed (.error e), session)

/-- Carries out a command. -/
def obey (session : Session) : Command → Program (Reply × Session)
  | .rescan => do
    match ← session.rescan with
    | .ok scanned => pure (.scanned (.ok scanned.lastScan), scanned)
    | .error e => pure (.scanned (.error e), session)
  | .load => do
    let (session, status) ← session.load
    pure (.loaded status, session)
  | .change change => do pure (session.settle (← session.change change))
  | .save options => do pure (.saved (← session.save options), session)

/-- A step of a run: a command with its reply, and the session that it has left. -/
structure Step where
  command : Command
  reply : Reply
  left : Session

/-- Commands, the last one first, that lead from a new session to a session. -/
inductive Run (project : Project) (table : PrefixTable) : List Step → Session → Prop
  | new : Run project table [] (.new project table)
  | step {steps : List Step} {session : Session} (command : Command) {reply : Reply}
      {left : Session} : Run project table steps session →
      (session.obey command).MayReturn (reply, left) →
      Run project table (⟨command, reply, left⟩ :: steps) left

/-- The identifiers that the last successful scan among steps has found, the last step first. -/
def lastScanned : List Step → List String
  | [] => []
  | step :: earlier =>
    if step.reply.isScan then step.left.store.identifiers else lastScanned earlier

/-- The steps of commands, the last one first, each carried out on a disk of its own, and the
session that they lead to. -/
def performed (project : Project) (table : PrefixTable) :
    List (Command × Disk) → List Step × Session
  | [] => ([], .new project table)
  | (command, disk) :: earlier =>
    let before := performed project table earlier
    let after := ((before.2.obey command).run disk).1
    (⟨command, after.1, after.2⟩ :: before.1, after.2)

/-- Whatever the disks hold, the steps are a run. -/
theorem run_performed (project : Project) (table : PrefixTable)
    (commands : List (Command × Disk)) :
    Run project table (performed project table commands).1
      (performed project table commands).2 := by
  induction commands with
  | nil => exact .new
  | cons c earlier ih => exact ih.step c.1 (Program.mayReturn_run _ c.2)

/-! ## What each command may leave -/

variable {session left : Session} {reply : Reply}

/-- A scan succeeds with the text that the header is read as, or leaves the session alone. -/
theorem mayReturn_rescan {outcome : Except SessionError Session}
    (h : session.rescan.MayReturn outcome) :
    (∃ text, outcome = .ok (session.scanned text)) ∨ ∃ e, outcome = .error e := by
  simp only [rescan, Program.mayReturn_within_iff, Program.mayReturn_bind_iff] at h
  obtain ⟨read, _, h⟩ := h
  cases read with
  | error e => exact .inr ⟨_, Program.mayReturn_pure_iff.1 h⟩
  | ok text =>
    obtain ⟨_, _, h⟩ := Program.mayReturn_bind_iff.1 h
    exact .inl ⟨text, Program.mayReturn_pure_iff.1 h⟩

/-- A load lays a document over the store, or leaves the session alone. -/
theorem mayReturn_load {status : LoadStatus} (h : session.load.MayReturn (left, status)) :
    left = session ∨ ∃ document, left = session.overlaid document := by
  obtain ⟨read, _, h⟩ := Program.mayReturn_bind_iff.1 h
  cases read with
  | ok document =>
    cases document with
    | none => exact .inl (Prod.mk.inj (Program.mayReturn_pure_iff.1 h)).1
    | some document => exact .inr ⟨document, (Prod.mk.inj (Program.mayReturn_pure_iff.1 h)).1⟩
  | error e =>
    obtain ⟨_, _, h⟩ := Program.mayReturn_bind_iff.1 h
    cases e <;> exact .inl (Prod.mk.inj (Program.mayReturn_pure_iff.1 h)).1

/-- Setting a field edits the store, or leaves the session alone. -/
theorem mayReturn_apply {identifier : String} {edit : Edit} {outcome : Except SessionError Session}
    (h : (session.apply identifier edit).MayReturn outcome) :
    (∃ store, session.store.edit identifier edit = .ok store ∧
      outcome = .ok { session with store }) ∨ ∃ e, outcome = .error e := by
  unfold apply edited at h
  cases edited : session.store.edit identifier edit with
  | error r =>
    rw [edited] at h
    exact .inr ⟨_, Program.mayReturn_pure_iff.1 h⟩
  | ok store =>
    rw [edited] at h
    obtain ⟨_, _, h⟩ := Program.mayReturn_bind_iff.1 h
    exact .inl ⟨store, rfl, Program.mayReturn_pure_iff.1 h⟩

theorem mayReturn_change {change : Change} {outcome : Except SessionError Session}
    (h : (session.change change).MayReturn outcome) :
    (∃ identifier edit store, session.store.edit identifier edit = .ok store ∧
      outcome = .ok { session with store }) ∨ ∃ e, outcome = .error e := by
  cases change with
  | apply identifier edit =>
    exact (mayReturn_apply h).imp_left fun ⟨store, ok, same⟩ => ⟨identifier, edit, store, ok, same⟩
  | edit identifier field value =>
    change (session.edit identifier field value).MayReturn outcome at h
    unfold Session.edit at h
    cases parsed : parseEdit field value with
    | error r =>
      rw [parsed] at h
      exact .inr ⟨_, Program.mayReturn_pure_iff.1 h⟩
    | ok edit =>
      rw [parsed] at h
      exact (mayReturn_apply h).imp_left fun ⟨store, ok, same⟩ =>
        ⟨identifier, edit, store, ok, same⟩

/-- All that a command may do to a session: it may scan a header, lay a document over the store, set
one field, or leave the session alone. Only a scan that has succeeded says so. -/
theorem obey_cases {command : Command} (h : (session.obey command).MayReturn (reply, left)) :
    (reply.isScan = true ∧ ∃ text, left = session.scanned text) ∨
    (reply.isScan = false ∧
      (left = session ∨ (∃ document, left = session.overlaid document) ∨
        ∃ identifier edit store, session.store.edit identifier edit = .ok store ∧
          left = { session with store })) := by
  cases command with
  | rescan =>
    obtain ⟨outcome, ho, h⟩ := Program.mayReturn_bind_iff.1 h
    obtain ⟨text, rfl⟩ | ⟨e, rfl⟩ := mayReturn_rescan ho
    · cases Program.mayReturn_pure_iff.1 h
      exact .inl ⟨rfl, text, rfl⟩
    · cases Program.mayReturn_pure_iff.1 h
      exact .inr ⟨rfl, .inl rfl⟩
  | load =>
    obtain ⟨⟨loaded, status⟩, hl, h⟩ := Program.mayReturn_bind_iff.1 h
    cases Program.mayReturn_pure_iff.1 h
    exact .inr ⟨rfl, (mayReturn_load hl).imp_right .inl⟩
  | change change =>
    obtain ⟨outcome, ho, h⟩ := Program.mayReturn_bind_iff.1 h
    obtain ⟨identifier, edit, store, ok, rfl⟩ | ⟨e, rfl⟩ := mayReturn_change ho
    · cases Program.mayReturn_pure_iff.1 h
      exact .inr ⟨rfl, .inr (.inr ⟨identifier, edit, store, ok, rfl⟩)⟩
    · cases Program.mayReturn_pure_iff.1 h
      exact .inr ⟨rfl, .inl rfl⟩
  | save options =>
    obtain ⟨outcome, _, h⟩ := Program.mayReturn_bind_iff.1 h
    cases Program.mayReturn_pure_iff.1 h
    exact .inr ⟨rfl, .inl rfl⟩

end WidgetBindings.Session
