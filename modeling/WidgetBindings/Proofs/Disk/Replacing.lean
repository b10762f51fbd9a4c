import WidgetBindings.Proofs.Disk.Editing
import WidgetBindings.Proofs.Path.Endings
import WidgetBindings.Proofs.Program.Outcome
import WidgetBindings.Replacement

/-!
# Replacing files on a disk

* `prepareDirectory_run`: once the directory of a file has been made, it need not be made again;
* `replaceFile_run`, `replaced_of_run`: what a disk is like after a file has been replaced;
* `Replaced.again`: putting the same bytes there again changes nothing;
* `Replaced.other`: nor does a replacement change the file beside it.
-/

namespace WidgetBindings

namespace Replacement

open Program Disk

variable {disk after : Disk} {path : String}

/-- On any disk, all that is there stays, and success means that there is a directory at a path. -/
def Makes (p : Program (Except Failure Unit)) (path : String) : Prop :=
  ∀ disk, Keeps [] disk (p.run disk).2 ∧
    ((p.run disk).1 = .ok () → (p.run disk).2.isDirectory path)

theorem makes_error (failure : Failure) : Makes (pure (.error failure)) path :=
  fun disk => ⟨.refl _ disk, fun h => by cases h⟩

theorem run_unlessThere (path : String) (failure : Failure) (disk : Disk) :
    (makeDirectories.unlessThere path (.error failure)).run disk =
      (if disk.isDirectory path then .ok () else .error failure, disk) := by
  change (if disk.isDirectory path then pure (.ok ()) else pure (.error failure) :
    Program (Except Failure Unit)).run disk = _
  split <;> rfl

theorem makes_unlessThere (failure : Failure) :
    Makes (makeDirectories.unlessThere path (.error failure)) path := by
  intro disk
  rw [run_unlessThere]
  refine ⟨.refl _ disk, fun success => ?_⟩
  by_cases there : disk.isDirectory path
  · exact there
  · rw [if_neg there] at success
    cases success

theorem makes_attempt :
    Makes (do makeDirectories.unlessThere path (← Program.makeDirectory path)) path := by
  intro disk
  simp only [run_bind, run_makeDirectory]
  cases made : disk.makeDirectory path with
  | ok after =>
    have ⟨keeps, there⟩ := keeps_makeDirectory made
    exact ⟨keeps, fun _ => there⟩
  | error failure => exact makes_unlessThere failure disk

theorem makes_makeDirectories (fuel : Nat) (path : String) :
    Makes (makeDirectories fuel path) path := by
  induction fuel generalizing path with
  | zero => exact makes_error _
  | succ fuel ih =>
    intro disk
    rw [makeDirectories, run_bind, run_makeDirectory]
    cases made : disk.makeDirectory path with
    | ok after =>
      have ⟨keeps, there⟩ := keeps_makeDirectory made
      exact ⟨keeps, fun _ => there⟩
    | error failure =>
      simp only [changed]
      split
      · rename_i h
        cases h
      · split
        · exact makes_error _ disk
        · exact makes_attempt disk
        · rename_i parent _ _
          rw [run_bind]
          have ⟨keeps, _⟩ := ih parent disk
          split
          · exact ⟨keeps, fun h => by cases h⟩
          · have ⟨further, there⟩ := @makes_attempt path ((makeDirectories fuel parent).run disk).2
            exact ⟨keeps.trans further, there⟩
      · rename_i h
        cases h
        exact makes_unlessThere _ disk

/-- Nothing is made where there is a directory. -/
theorem makeDirectories_of_isDirectory (fuel : Nat) (h : disk.isDirectory path) :
    (makeDirectories (fuel + 1) path).run disk = (.ok (), disk) := by
  rw [makeDirectories, run_bind, run_makeDirectory, makeDirectory_of_isDirectory h]
  exact (run_unlessThere path .alreadyExists disk).trans (by rw [if_pos h])

/-- Once the directory of a file has been made, it need not be made again. -/
theorem prepareDirectory_run (h : (prepareDirectory path).run disk = (.ok (), after)) :
    Keeps [] disk after ∧ ∀ {touched : List Location} {later : Disk},
      Keeps touched after later → (prepareDirectory path).run later = (.ok (), later) := by
  unfold prepareDirectory at h ⊢
  split at h
  · cases h
    exact ⟨.refl _ disk, fun _ => rfl⟩
  · cases h
    exact ⟨.refl _ disk, fun _ => rfl⟩
  · rename_i parent _ _
    have ⟨keeps, there⟩ := makes_makeDirectories (parent.length + 1) parent disk
    rw [run_bind] at h
    split at h
    · rename_i made
      cases h
      refine ⟨keeps, fun later => ?_⟩
      rw [run_bind, makeDirectories_of_isDirectory _ (later.isDirectory (there made))]
      rfl
    · cases h

/-! ## Writing and moving -/

variable {bytes : List UInt8} {temporary : String} {old new : Location}

theorem writeNew_of_opens (h : disk.Opens path new) :
    (writeNew path bytes).run disk = (.ok (), disk.put new (.file bytes)) := by
  have created : disk.create path = .ok (disk.put new (.file [])) := by
    rw [Disk.create, openFile_of_opens h]
    rfl
  have ⟨there, opens⟩ := h.put []
  have written : (disk.put new (.file [])).write path bytes =
      .ok (disk.put new (.file bytes)) := by
    rw [Disk.write, openFile_of_opens opens, held, there,
      ← put_put disk new (.file []) (.file bytes)]
    rfl
  simp [writeNew, created, written, changed]

theorem opens_of_writeNew (h : (writeNew path bytes).run disk = (.ok (), after)) :
    ∃ new, disk.Opens path new := by
  cases opened : disk.openFile path with
  | ok found => exact ⟨found.1, opens_of_openFile opened⟩
  | error failure =>
    have created : disk.create path = .error failure := by
      rw [Disk.create, opened]
      rfl
    simp [writeNew, created, changed] at h

theorem swap_of_opens (prepared : disk.Opens temporary old)
    (target : (disk.put old (.file bytes)).Opens path new) :
    (swap temporary path bytes).run disk = (.ok (), (disk.clear old).put new (.file bytes)) := by
  have ⟨there, opens⟩ := prepared.put bytes
  have moved := rename_of_opens opens there target
  rw [clear_put] at moved
  simp [swap, writeNew_of_opens prepared, moved, changed]

theorem opens_of_swap (h : (swap temporary path bytes).run disk = (.ok (), after)) :
    ∃ old new, disk.Opens temporary old ∧ (disk.put old (.file bytes)).Opens path new := by
  cases written : (writeNew temporary bytes).run disk with
  | mk outcome between =>
    cases outcome with
    | error e => simp [swap, written] at h
    | ok _ =>
      obtain ⟨old, prepared⟩ := opens_of_writeNew written
      cases (writeNew_of_opens prepared).symm.trans written
      have ⟨there, opens⟩ := prepared.put bytes
      cases moved : (disk.put old (.file bytes)).rename temporary path with
      | error failure => simp [swap, written, moved, changed] at h
      | ok last =>
        obtain ⟨_, new, _, _, _, target, _⟩ := rename_eq_ok moved
        exact ⟨old, new, prepared, target⟩

end Replacement

/-! ## Replacing a file -/

section

open Program Disk Replacement

variable {disk after : Disk} {path : String} {bytes : List UInt8} {old new : Location}

theorem replaceFile_of_opens (made : (prepareDirectory path).run disk = (.ok (), disk))
    (prepared : disk.Opens (Path.temporary path) old)
    (target : (disk.put old (.file bytes)).Opens path new) :
    (replaceFile path bytes).run disk = (.ok (), (disk.clear old).put new (.file bytes)) := by
  simp [replaceFile, made, swap_of_opens prepared target]

/-- What a disk is like after a file has been replaced. -/
theorem replaceFile_run (h : (replaceFile path bytes).run disk = (.ok (), after)) :
    ∃ ready old new, (prepareDirectory path).run disk = (.ok (), ready) ∧
      ready.Opens (Path.temporary path) old ∧ (ready.put old (.file bytes)).Opens path new ∧
      after = (ready.clear old).put new (.file bytes) := by
  cases made : (prepareDirectory path).run disk with
  | mk outcome ready =>
    cases outcome with
    | error e => simp [replaceFile, made] at h
    | ok _ =>
      cases swapped : (swap (Path.temporary path) path bytes).run ready with
      | mk outcome last =>
        cases outcome with
        | error e => simp [replaceFile, made, swapped] at h
        | ok _ =>
          obtain ⟨old, new, prepared, target⟩ := opens_of_swap swapped
          have same := swap_of_opens prepared target
          simp [replaceFile, made, same] at h
          exact ⟨ready, old, new, rfl, prepared, target, h.symm⟩

/-- A file as it is left by being replaced: its bytes are at its place, and nothing is at the place
where they were prepared. -/
structure Replaced (disk : Disk) (path : String) (bytes : List UInt8) : Prop where
  made : ∀ {touched : List Location} {later : Disk}, Keeps touched disk later →
    (prepareDirectory path).run later = (.ok (), later)
  prepared : disk.Opens (Path.temporary path) (disk.place (Path.temporary path))
  target : disk.Opens path (disk.place path)
  free : disk.at? (disk.place (Path.temporary path)) = none
  holds : disk.at? (disk.place path) = some (.file bytes)

/-- Between two disks that differ by a replaced file, all else is kept. -/
theorem keeps_replaced (prepared : disk.Opens (Path.temporary path) old)
    (target : (disk.put old (.file bytes)).Opens path new) :
    Keeps [old, new] disk ((disk.clear old).put new (.file bytes)) ∧
      (disk.clear old).Opens path new := by
  have cleared := keeps_clear (prepared.put bytes).2
  rw [clear_put] at cleared
  have opens : (disk.clear old).Opens path new := by
    refine target.keeps cleared ?_
    obtain ⟨_, _, _, _, _, file⟩ := target
    rw [at?_put disk prepared.ne_nil] at file
    rw [at?_clear disk prepared.ne_nil]
    split
    · simp
    · rename_i other
      rwa [if_neg other] at file
  exact ⟨(keeps_clear prepared).append (keeps_put opens _), opens⟩

theorem read_of_replaceFile {path : String} {bytes : List UInt8}
    (h : (replaceFile path bytes).run disk = (.ok (), after)) : after.read path = .ok bytes := by
  obtain ⟨ready, old, new, _, prepared, target, rfl⟩ := replaceFile_run h
  obtain ⟨holds, opens⟩ := (keeps_replaced prepared target).2.put bytes
  exact Disk.read_of_opens opens holds

/-- A replacement by way of paths without double dots, once its directory is ready: the places of
the paths are what it touches. -/
theorem replaceFile_places (plain : ∀ p ∈ Path.written path, ".." ∉ namesOf p)
    (h : (replaceFile path bytes).run disk = (.ok (), after)) :
    ∃ ready, (prepareDirectory path).run disk = (.ok (), ready) ∧
      ready.Opens (Path.temporary path) (ready.place (Path.temporary path)) ∧
      (ready.clear (ready.place (Path.temporary path))).Opens path (ready.place path) ∧
      Keeps [ready.place (Path.temporary path), ready.place path] ready after ∧
      after = (ready.clear (ready.place (Path.temporary path))).put (ready.place path)
        (.file bytes) := by
  obtain ⟨ready, old, new, made, prepared, target, rfl⟩ := replaceFile_run h
  have ⟨keeps, opens⟩ := keeps_replaced prepared target
  have at_old := prepared.eq_place (plain _ (by simp [Path.written]))
  have at_new := opens.eq_place (plain _ (by simp [Path.written]))
  rw [(keeps_clear prepared).place_eq] at at_new
  subst at_old at_new
  exact ⟨ready, made, prepared, opens, keeps, rfl⟩

theorem replaced_of_run (plain : ∀ p ∈ Path.written path, ".." ∉ namesOf p)
    (apart : disk.place (Path.temporary path) ≠ disk.place path)
    (h : (replaceFile path bytes).run disk = (.ok (), after)) :
    Keeps ((Path.written path).map disk.place) disk after ∧
      Replaced after path bytes := by
  obtain ⟨ready, made, prepared, opens, keeps, rfl⟩ := replaceFile_places plain h
  have ⟨first, again⟩ := prepareDirectory_run made
  simp only [first.place_eq] at prepared opens keeps ⊢
  have whole := first.append keeps
  have there := (opens.put bytes).1
  have free : ((ready.clear (disk.place (Path.temporary path))).put (disk.place path)
      (.file bytes)).at? (disk.place (Path.temporary path)) = none := by
    rw [at?_put _ opens.ne_nil, if_neg apart, at?_clear _ prepared.ne_nil, if_pos rfl]
  refine ⟨whole.mono fun l hl => by simpa [Path.written, or_comm] using hl,
    fun later => again (keeps.append later), ?_, ?_, ?_, ?_⟩
  · rw [whole.place_eq]
    exact prepared.keeps keeps (by rw [free]; simp)
  · rw [whole.place_eq]
    exact (opens.put bytes).2
  · rw [whole.place_eq]
    exact free
  · rw [whole.place_eq]
    exact there

/-- Putting the same bytes there again changes nothing. -/
theorem Replaced.again (h : Replaced disk path bytes) :
    (replaceFile path bytes).run disk = (.ok (), disk) := by
  have apart : disk.place path ≠ disk.place (Path.temporary path) := by
    intro same
    have free := h.free
    rw [← same, h.holds] at free
    cases free
  have target : (disk.put (disk.place (Path.temporary path)) (.file bytes)).Opens path
      (disk.place path) := by
    refine h.target.keeps (keeps_put h.prepared _) ?_
    rw [at?_put disk h.prepared.ne_nil, if_neg apart, h.holds]
    simp
  rw [replaceFile_of_opens (h.made (.refl [] disk)) h.prepared target,
    put_clear_eq_self ⟨h.prepared.ne_nil, h.target.ne_nil⟩ h.free h.holds]

/-- A replaced file stays as it is when another one in its directory is replaced. -/
theorem Replaced.other {other : String} {more : List UInt8} (h : Replaced disk path bytes)
    (beside : Path.parent? other = Path.parent? path)
    (plain : ∀ p ∈ Path.written other, ".." ∉ namesOf p)
    (apart : ∀ p ∈ Path.written other, ∀ q ∈ Path.written path,
      disk.place q ≠ disk.place p)
    (written : (replaceFile other more).run disk = (.ok (), after)) :
    Replaced after path bytes := by
  have same : prepareDirectory other = prepareDirectory path := by
    rw [prepareDirectory, prepareDirectory, beside]
  obtain ⟨ready, made, prepared, opens, keeps, rfl⟩ := replaceFile_places plain written
  rw [same, h.made (.refl [] disk)] at made
  cases made
  have unchanged : ∀ q ∈ Path.written path,
      ((disk.clear (disk.place (Path.temporary other))).put (disk.place other) (.file more)).at?
        (disk.place q) = disk.at? (disk.place q) := by
    intro q hq
    rw [at?_put _ opens.ne_nil, if_neg (apart _ (by simp [Path.written]) q hq),
      at?_clear _ prepared.ne_nil, if_neg (apart _ (by simp [Path.written]) q hq)]
  have free := (unchanged (Path.temporary path) (by simp [Path.written])).trans h.free
  have holds := (unchanged path (by simp [Path.written])).trans h.holds
  refine ⟨fun later => h.made (keeps.append later), ?_, ?_, ?_, ?_⟩
  · rw [keeps.place_eq]
    exact h.prepared.keeps keeps (by rw [free]; simp)
  · rw [keeps.place_eq]
    exact h.target.keeps keeps (by rw [holds]; simp)
  · rw [keeps.place_eq]
    exact free
  · rw [keeps.place_eq]
    exact holds

end

end WidgetBindings
