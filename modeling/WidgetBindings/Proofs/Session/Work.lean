import WidgetBindings.Proofs.Session.Command

/-!
# Work on a session that is in use

The commands of a session hand back the session that they lead to. An implementation has one session
that is there all the time: the stages of a command change it one after the other, and what a stage
has changed is still changed when a later one fails. `Work` is put together from such stages, and
`Work.on` says what comes of it, the session included.
-/

namespace WidgetBindings.Session

/-- Work on a session that is in use. It may change the session, ask for something, and fail;
failing takes no change back. -/
abbrev Work (ε : Type) := ExceptT ε (StateT Session Program)

namespace Work

variable {ε α β : Type}

/-- What comes of work on a session, and what has become of the session. -/
def on (work : Work ε α) (session : Session) : Program (Except ε α × Session) :=
  work.run.run session

/-- Work that only asks the surroundings. -/
def asking (program : Program α) : Work ε α := ExceptT.lift (StateT.lift program)

/-- Work that asks the surroundings for something that they may fail to give. -/
def trying {ε' : Type} (failed : ε' → ε) (program : Program (Except ε' α)) : Work ε α :=
  ExceptT.mk (StateT.lift (Except.mapError failed <$> program))

/-- Work whose reports lie in a span. -/
def within (span : Log.Span) (work : Work ε α) : Work ε α :=
  ExceptT.mk fun session => Program.within span (work.on session)

/-- Adds a note to the notes of the session. -/
def note (line : String) : Work ε Unit :=
  modify fun session => { session with notes := session.notes.append [line] }

/-- What follows work that has come to an end. -/
def proceed (next : α → Work ε β) : Except ε α × Session → Program (Except ε β × Session)
  | (.ok a, session) => (next a).on session
  | (.error e, session) => pure (.error e, session)

@[simp] theorem proceed_ok (next : α → Work ε β) (a : α) (session : Session) :
    proceed next (.ok a, session) = (next a).on session := rfl

@[simp] theorem proceed_error (next : α → Work ε β) (e : ε) (session : Session) :
    proceed next (.error e, session) = pure (.error e, session) := rfl

@[simp] theorem on_pure (a : α) (session : Session) :
    (pure a : Work ε α).on session = pure (.ok a, session) := rfl

@[simp] theorem on_throw (e : ε) (session : Session) :
    (throw e : Work ε α).on session = pure (.error e, session) := rfl

@[simp] theorem on_bind (work : Work ε α) (next : α → Work ε β) (session : Session) :
    (work >>= next).on session = work.on session >>= proceed next := by
  refine congrArg (work.on session >>= ·) (funext fun r => ?_)
  obtain ⟨outcome, left⟩ := r
  cases outcome <;> rfl

@[simp] theorem on_get (session : Session) :
    (get : Work ε Session).on session = pure (.ok session, session) := rfl

@[simp] theorem on_modify (f : Session → Session) (session : Session) :
    (modify f : Work ε PUnit).on session = pure (.ok ⟨⟩, f session) := rfl

@[simp] theorem on_note (line : String) (session : Session) :
    (note line : Work ε Unit).on session =
      pure (.ok (), { session with notes := session.notes.append [line] }) := rfl

@[simp] theorem on_asking (program : Program α) (session : Session) :
    (asking program : Work ε α).on session = program >>= fun a => pure (.ok a, session) := by
  simp [asking, on, ExceptT.lift]

@[simp] theorem on_trying {ε' : Type} (failed : ε' → ε) (program : Program (Except ε' α))
    (session : Session) : (trying failed program).on session =
      program >>= fun outcome => pure (outcome.mapError failed, session) := by
  simp [trying, on]

@[simp] theorem on_within (span : Log.Span) (work : Work ε α) (session : Session) :
    (work.within span).on session = Program.within span (work.on session) := rfl

end Work

end WidgetBindings.Session
