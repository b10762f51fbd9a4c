import WidgetBindings.Proofs.Program.Confined

/-!
# Programs on a day

A disk knows no date. On a day it answers as before, and with that date.

* `Only.runOn_eq_run`: the day does not count for a program that does not ask for it;
* `reaches_runOn`: what comes of a program on a day is what may come of it on the disk.
-/

namespace WidgetBindings.Program

variable {α β : Type}

/-- How a disk answers a request on a day. -/
def answerAt (date : Option Date) (disk : Disk) : (r : Request) → r.Answer × Disk
  | .today => (date, disk)
  | r => answerOn disk r

/-- Runs a program on a disk, on a day. -/
def runOn (date : Option Date) : Program α → Disk → α × Disk
  | done a, disk => (a, disk)
  | ask r next, disk =>
    (next (answerAt date disk r).1).runOn date (answerAt date disk r).2

variable (date : Option Date)

@[simp] theorem runOn_pure (a : α) (disk : Disk) :
    (pure a : Program α).runOn date disk = (a, disk) :=
  rfl

@[simp] theorem runOn_bind (p : Program α) (f : α → Program β) (disk : Disk) :
    (p >>= f).runOn date disk = (f (p.runOn date disk).1).runOn date (p.runOn date disk).2 := by
  change (p.bind f).runOn date disk = _
  induction p generalizing disk with
  | done a => rfl
  | ask r next ih => exact ih _ _

@[simp] theorem runOn_within (span : Log.Span) (p : Program α) (disk : Disk) :
    (within span p).runOn date disk = p.runOn date disk := by
  induction p generalizing disk with
  | done a => rfl
  | ask r next ih => cases r <;> exact ih _ _

@[simp] theorem runOn_read (path : String) (disk : Disk) :
    (read path).runOn date disk = (disk.read path, disk) := rfl

@[simp] theorem runOn_reportAll (rs : List Log.Report) (disk : Disk) :
    (reportAll rs).runOn date disk = ((), disk) := by
  induction rs with
  | nil => rfl
  | cons r rs ih => exact ih

/-- A disk by itself answers as on no day. -/
theorem runOn_none (p : Program α) (disk : Disk) : p.runOn none disk = p.run disk := by
  induction p generalizing disk with
  | done a => rfl
  | ask r next ih => cases r <;> exact ih _ _

/-- The day does not count for a program that does not ask for it. -/
theorem Only.runOn_eq_run {paths : List String} {p : Program α}
    (h : p.Only (Request.Timeless paths)) (disk : Disk) : p.runOn date disk = p.run disk := by
  induction p generalizing disk with
  | done a => rfl
  | ask r next ih =>
    obtain ⟨timeless, later⟩ := only_ask_iff.1 h
    have same : answerAt date disk r = answerOn disk r := by
      cases r with
      | today => exact timeless.elim
      | _ => rfl
    rw [runOn, run, same]
    exact ih _ (later _) _

theorem answers_answerAt (disk : Disk) (r : Request) :
    disk.Answers r (answerAt date disk r).1 (answerAt date disk r).2 := by
  cases r with
  | today => exact rfl
  | _ => exact disk.answers_answerOn _

/-- What comes of a program on a day may come of it on the disk. -/
theorem reaches_runOn (p : Program α) (disk : Disk) :
    ∃ events, p.Reaches disk events (pure (p.runOn date disk).1) (p.runOn date disk).2 := by
  induction p generalizing disk with
  | done a => exact ⟨[], .here _ _⟩
  | ask r next ih =>
    obtain ⟨events, reached⟩ := ih (answerAt date disk r).1 (answerAt date disk r).2
    exact ⟨_, .step (answers_answerAt date disk r) reached⟩

end WidgetBindings.Program
