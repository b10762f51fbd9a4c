import WidgetBindings.Program

/-!
# What comes of a program

Programs are put together from parts, and what comes of the whole follows from what comes of the
parts: on a disk (`run_bind`), and in any surroundings at all, where `MayReturn` says which results
there are answers for (`mayReturn_bind_iff`). Reports and spans change neither.
-/

namespace WidgetBindings.Program

variable {α β : Type}

theorem bind_done (p : Program α) : p.bind done = p := by
  induction p with
  | done a => rfl
  | ask r next ih => exact congrArg (ask r) (funext ih)

theorem bind_assoc {γ : Type} (p : Program α) (f : α → Program β) (g : β → Program γ) :
    (p.bind f).bind g = p.bind fun a => (f a).bind g := by
  induction p with
  | done a => rfl
  | ask r next ih => exact congrArg (ask r) (funext ih)

instance : LawfulMonad Program :=
  LawfulMonad.mk' Program bind_done (fun _ _ => rfl) bind_assoc

theorem within_bind (span : Log.Span) (p : Program α) (f : α → Program β) :
    within span (p.bind f) = (within span p).bind fun a => within span (f a) := by
  induction p with
  | done a => rfl
  | ask r next ih => cases r <;> exact congrArg (ask _) (funext ih)

theorem map_within (f : α → β) (span : Log.Span) (p : Program α) :
    f <$> within span p = within span (f <$> p) := by
  rw [map_eq_pure_bind, map_eq_pure_bind]
  exact (within_bind span p fun a => pure (f a)).symm

theorem reportAll_append (rs more : List Log.Report) :
    reportAll (rs ++ more) = reportAll rs >>= fun _ => reportAll more := by
  induction rs with
  | nil => rfl
  | cons r rs ih => simp only [List.cons_append, reportAll, ih, LawfulMonad.bind_assoc]

/-! ## On a disk -/

@[simp] theorem run_pure (a : α) (disk : Disk) : (pure a : Program α).run disk = (a, disk) := rfl

@[simp] theorem run_bind (p : Program α) (f : α → Program β) (disk : Disk) :
    (p >>= f).run disk = (f (p.run disk).1).run (p.run disk).2 := by
  change (p.bind f).run disk = _
  induction p generalizing disk with
  | done a => rfl
  | ask r next ih => exact ih _ _

@[simp] theorem run_map (f : α → β) (p : Program α) (disk : Disk) :
    (f <$> p).run disk = (f (p.run disk).1, (p.run disk).2) := by
  rw [map_eq_pure_bind, run_bind, run_pure]

@[simp] theorem run_report (r : Log.Report) (disk : Disk) : (report r).run disk = ((), disk) := rfl

@[simp] theorem run_reportAll (rs : List Log.Report) (disk : Disk) :
    (reportAll rs).run disk = ((), disk) := by
  induction rs with
  | nil => rfl
  | cons r rs ih => exact ih

@[simp] theorem run_within (span : Log.Span) (p : Program α) (disk : Disk) :
    (within span p).run disk = p.run disk := by
  induction p generalizing disk with
  | done a => rfl
  | ask r next ih => cases r <;> exact ih _ _

@[simp] theorem run_read (path : String) (disk : Disk) :
    (read path).run disk = (disk.read path, disk) := rfl

@[simp] theorem run_makeDirectory (path : String) (disk : Disk) :
    (makeDirectory path).run disk = changed disk (disk.makeDirectory path) := rfl

@[simp] theorem run_isDirectory (path : String) (disk : Disk) :
    (isDirectory path).run disk = (disk.isDirectory path, disk) := rfl

@[simp] theorem run_create (path : String) (disk : Disk) :
    (create path).run disk = changed disk (disk.create path) := rfl

@[simp] theorem run_write (path : String) (bytes : List UInt8) (disk : Disk) :
    (write path bytes).run disk = changed disk (disk.write path bytes) := rfl

@[simp] theorem run_sync (path : String) (disk : Disk) :
    (sync path).run disk = (.ok (), disk) := rfl

@[simp] theorem run_rename (source target : String) (disk : Disk) :
    (rename source target).run disk = changed disk (disk.rename source target) := rfl

/-! ## In any surroundings -/

/-- Some answers to its requests let the program end with this result. -/
inductive MayReturn : Program α → α → Prop
  | done (a : α) : MayReturn (.done a) a
  | ask {r : Request} {next : r.Answer → Program α} (answer : r.Answer) {a : α} :
      MayReturn (next answer) a → MayReturn (.ask r next) a

@[simp] theorem mayReturn_pure_iff {a b : α} : MayReturn (pure a) b ↔ b = a := by
  constructor
  · rintro ⟨⟩
    rfl
  · rintro rfl
    exact .done b

@[simp] theorem mayReturn_bind_iff {p : Program α} {f : α → Program β} {b : β} :
    MayReturn (p >>= f) b ↔ ∃ a, MayReturn p a ∧ MayReturn (f a) b := by
  change MayReturn (p.bind f) b ↔ _
  constructor
  · intro h
    induction p with
    | done a => exact ⟨a, .done a, h⟩
    | ask r next ih =>
      cases h with
      | ask answer h =>
        obtain ⟨a, ha, hb⟩ := ih answer h
        exact ⟨a, .ask answer ha, hb⟩
  · rintro ⟨a, ha, hb⟩
    induction ha with
    | done a => exact hb
    | ask answer _ ih => exact .ask answer (ih hb)

@[simp] theorem mayReturn_ask_iff {r : Request} {next : r.Answer → Program α} {a : α} :
    MayReturn (ask r next) a ↔ ∃ answer, MayReturn (next answer) a := by
  constructor
  · intro h
    cases h with | ask answer h => exact ⟨answer, h⟩
  · rintro ⟨answer, h⟩
    exact .ask answer h

@[simp] theorem mayReturn_within_iff {span : Log.Span} {p : Program α} {a : α} :
    MayReturn (within span p) a ↔ MayReturn p a := by
  induction p with
  | done b => exact Iff.rfl
  | ask r next ih =>
    rw [mayReturn_ask_iff]
    cases r <;> exact mayReturn_ask_iff.trans (exists_congr ih)

/-- What a disk answers is one of the ways to answer. -/
theorem mayReturn_run (p : Program α) (disk : Disk) : MayReturn p (p.run disk).1 := by
  induction p generalizing disk with
  | done a => exact .done a
  | ask r next ih => exact .ask _ (ih _ _)

/-! ## Programs that only look -/

/-- Whether a request leaves every file as it is. -/
def looks : Request → Bool
  | .isDirectory _ | .read _ | .report _ _ | .today => true
  | .makeDirectory _ | .create _ | .write _ _ | .sync _ | .rename _ _ | .remove _
  | .openLog _ _ => false

/-- Whatever the answers are, the program makes no request that could change a file. -/
def OnlyLooks : Program α → Prop
  | .done _ => True
  | .ask r next => looks r = true ∧ ∀ answer, (next answer).OnlyLooks

theorem onlyLooks_pure (a : α) : (pure a : Program α).OnlyLooks := trivial

theorem onlyLooks_bind {p : Program α} {f : α → Program β} (first : p.OnlyLooks)
    (rest : ∀ a, (f a).OnlyLooks) : (p >>= f).OnlyLooks := by
  change (p.bind f).OnlyLooks
  induction p with
  | done a => exact rest a
  | ask r next ih => exact ⟨first.1, fun answer => ih answer (first.2 answer)⟩

theorem onlyLooks_reportAll (rs : List Log.Report) : (reportAll rs).OnlyLooks := by
  induction rs with
  | nil => trivial
  | cons r rs ih => exact onlyLooks_bind ⟨rfl, fun _ => trivial⟩ fun _ => ih

theorem onlyLooks_within {span : Log.Span} {p : Program α} (h : p.OnlyLooks) :
    (within span p).OnlyLooks := by
  induction p with
  | done a => trivial
  | ask r next ih => cases r <;> exact ⟨h.1, fun answer => ih answer (h.2 answer)⟩

/-- Looking at a disk leaves it as it is. -/
theorem OnlyLooks.run_snd {p : Program α} (h : p.OnlyLooks) (disk : Disk) :
    (p.run disk).2 = disk := by
  induction p generalizing disk with
  | done a => rfl
  | ask r next ih =>
    have untouched : (answerOn disk r).2 = disk := by
      cases r <;> first | rfl | cases h.1
    exact (ih _ (h.2 _) _).trans untouched

end WidgetBindings.Program
