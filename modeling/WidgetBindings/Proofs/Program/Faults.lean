import WidgetBindings.Proofs.Disk.Editing
import WidgetBindings.Proofs.Program.Outcome

/-!
# Programs on a disk that may fail

Any request for a file may be refused, whether the disk could grant it or not. A refused request
changes nothing, but a file that could not be written or stored may hold anything. A program may
also be cut off after any of its requests.

* `Disk.Answers`: how a disk may answer a request;
* `Reaches`: the points that a program may get to;
* `Ensures`: what holds at each of them, and at the end (`Ensures.of_reaches`).
-/

namespace WidgetBindings

namespace Disk

/-- An operation is carried out, or it is refused and changes nothing. -/
def Tries (disk : Disk) (outcome : Except Failure Disk) (answer : Except Failure Unit)
    (after : Disk) : Prop :=
  (answer = .ok () ∧ outcome = .ok after) ∨ (∃ failure, answer = .error failure) ∧ after = disk

/-- The file that was being written may hold anything. -/
def Spoils (disk : Disk) (path : String) (after : Disk) : Prop :=
  after = disk ∨
    ∃ location left, disk.Opens path location ∧ after = disk.put location (.file left)

/-- How a disk may answer a request, and what it is like after that. -/
def Answers (disk : Disk) : (r : Request) → r.Answer → Disk → Prop
  | .makeDirectory path, answer, after => disk.Tries (disk.makeDirectory path) answer after
  | .create path, answer, after => disk.Tries (disk.create path) answer after
  | .rename source target, answer, after => disk.Tries (disk.rename source target) answer after
  | .remove path, answer, after => disk.Tries (disk.remove path) answer after
  | .write path bytes, answer, after =>
    (answer = Except.ok () ∧ disk.write path bytes = .ok after) ∨
      (∃ failure, answer = Except.error failure) ∧ disk.Spoils path after
  | .sync path, answer, after =>
    (answer = Except.ok () ∧ after = disk) ∨
      (∃ failure, answer = Except.error failure) ∧ disk.Spoils path after
  | .isDirectory path, answer, after =>
    (answer = true → disk.isDirectory path = true) ∧ after = disk
  | .read path, answer, after =>
    (∀ bytes, answer = Except.ok bytes → disk.read path = .ok bytes) ∧ after = disk
  | .openLog _ _, _, after | .report _ _, _, after | .today, _, after => after = disk

theorem tries_changed (disk : Disk) (outcome : Except Failure Disk) :
    disk.Tries outcome (Program.changed disk outcome).1 (Program.changed disk outcome).2 := by
  cases outcome with
  | ok after => exact .inl ⟨rfl, rfl⟩
  | error failure => exact .inr ⟨⟨failure, rfl⟩, rfl⟩

/-- What a disk answers that does not fail is one of the ways to answer. -/
theorem answers_answerOn (disk : Disk) (r : Request) :
    disk.Answers r (Program.answerOn disk r).1 (Program.answerOn disk r).2 := by
  cases r with
  | makeDirectory | create | rename | remove => exact tries_changed disk _
  | write path bytes =>
    obtain done | ⟨failed, same⟩ := tries_changed disk (disk.write path bytes)
    · exact .inl done
    · exact .inr ⟨failed, .inl same⟩
  | sync path => exact .inl ⟨rfl, rfl⟩
  | isDirectory path => exact ⟨id, rfl⟩
  | read path => exact ⟨fun _ h => h, rfl⟩
  | openLog | report | today => exact rfl

end Disk

/-- A request and the answer that it got. -/
structure Event where
  request : Request
  answer : request.Answer

namespace Program

variable {α β : Type}

/-- With these events a program gets to a point where the rest of it is to be carried out on a disk.
-/
inductive Reaches : Program α → Disk → List Event → Program α → Disk → Prop
  | here (p : Program α) (disk : Disk) : Reaches p disk [] p disk
  | step {r : Request} {next : r.Answer → Program α} {disk between after : Disk}
      {answer : r.Answer} {events : List Event} {rest : Program α} :
      disk.Answers r answer between → Reaches (next answer) between events rest after →
      Reaches (ask r next) disk (⟨r, answer⟩ :: events) rest after

/-- The events of a program on a disk that does not fail. -/
def eventsOn : Program α → Disk → List Event
  | done _, _ => []
  | ask r next, disk =>
    ⟨r, (answerOn disk r).1⟩ :: (next (answerOn disk r).1).eventsOn (answerOn disk r).2

theorem reaches_run (p : Program α) (disk : Disk) :
    Reaches p disk (p.eventsOn disk) (done (p.run disk).1) (p.run disk).2 := by
  induction p generalizing disk with
  | done a => exact .here _ disk
  | ask r next ih => exact .step (disk.answers_answerOn r) (ih _ _)

/-- After some events, something holds of the disk wherever the program gets, and more at its end.
-/
def Ensures (holds : List Event → Disk → Prop) (ends : α → List Event → Disk → Prop) :
    Program α → List Event → Disk → Prop
  | done a, past, disk => holds past disk ∧ ends a past disk
  | ask r next, past, disk => holds past disk ∧ ∀ answer after, disk.Answers r answer after →
    (next answer).Ensures holds ends (past ++ [⟨r, answer⟩]) after

variable {holds : List Event → Disk → Prop} {ends : α → List Event → Disk → Prop}
  {past : List Event} {disk : Disk}

theorem ensures_pure {a : α} (now : holds past disk) (at_end : ends a past disk) :
    (pure a : Program α).Ensures holds ends past disk := ⟨now, at_end⟩

theorem ensures_request {r : Request} {f : r.Answer → Program α} (now : holds past disk)
    (next : ∀ answer after, disk.Answers r answer after →
      (f answer).Ensures holds ends (past ++ [⟨r, answer⟩]) after) :
    (request r >>= f).Ensures holds ends past disk := ⟨now, next⟩

theorem ensures_bind {p : Program β} {f : β → Program α}
    (first : p.Ensures holds (fun b past disk => (f b).Ensures holds ends past disk) past disk) :
    (p >>= f).Ensures holds ends past disk := by
  change (p.bind f).Ensures holds ends past disk
  induction p generalizing past disk with
  | done b => exact first.2
  | ask r next ih => exact ⟨first.1, fun answer after h => ih answer (first.2 answer after h)⟩

theorem Ensures.now {p : Program α} (h : p.Ensures holds ends past disk) : holds past disk := by
  cases p with
  | done a => exact h.1
  | ask r next => exact h.1

theorem Ensures.at_end {a : α} (h : (pure a : Program α).Ensures holds ends past disk) :
    ends a past disk := h.2

theorem Ensures.mono {p : Program α} {holds' : List Event → Disk → Prop}
    {ends' : α → List Event → Disk → Prop} (h : p.Ensures holds ends past disk)
    (holding : ∀ past disk, holds past disk → holds' past disk)
    (ending : ∀ a past disk, holds past disk → ends a past disk → ends' a past disk) :
    p.Ensures holds' ends' past disk := by
  induction p generalizing past disk with
  | done a => exact ⟨holding _ _ h.1, ending _ _ _ h.1 h.2⟩
  | ask r next ih =>
    exact ⟨holding _ _ h.1, fun answer after granted => ih answer (h.2 answer after granted)⟩

/-- What does not depend on the events before a program it ensures after any events. -/
theorem Ensures.forget {p : Program α} (h : p.Ensures holds ends past disk) (before : List Event) :
    p.Ensures (fun _ disk => ∃ past, holds past disk) (fun a _ disk => ∃ past, ends a past disk)
      before disk := by
  induction p generalizing past before disk with
  | done a => exact ⟨⟨past, h.1⟩, past, h.2⟩
  | ask r next ih =>
    exact ⟨⟨past, h.1⟩, fun answer after granted => ih answer (h.2 answer after granted) _⟩

/-- What a program ensures it ensures from each point on that it gets to. -/
theorem Ensures.of_reaches {p rest : Program α} {events : List Event} {after : Disk}
    (h : p.Ensures holds ends past disk) (reached : p.Reaches disk events rest after) :
    rest.Ensures holds ends (past ++ events) after := by
  induction reached generalizing past with
  | here => rwa [List.append_nil]
  | step granted _ ih =>
    have next := ih (h.2 _ _ granted)
    rwa [List.append_assoc, List.singleton_append] at next

-- From here on only the lemmas are used: to unfold it is to carry the program out.
attribute [irreducible] Ensures

end Program

end WidgetBindings
