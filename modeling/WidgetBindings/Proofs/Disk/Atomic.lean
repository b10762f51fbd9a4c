import WidgetBindings.Proofs.Disk.Replacing
import WidgetBindings.Proofs.Path.Components
import WidgetBindings.Proofs.Program.Faults

/-!
# A file is replaced as a whole or not at all

A file is replaced on a disk that may refuse any request, spoil the file that it writes, and cut the
replacement off at any point. `Stage` lists all that the disk may be like in between.

* `ensures_makeDirectories`: on the way to the file, missing directories may be made;
* `ensures_swap`, `ensures_replaceFile`: the stages of a replacement, and how it may end;
* `replaceFile_atomic`: what that means for each location of the disk.
-/

namespace WidgetBindings

namespace Disk

variable {disk after : Disk} {path : String} {below location : Location}

/-- But for some locations one disk has all that is on another one, and perhaps more directories on
the way to a location. -/
structure Grows (touched : List Location) (below : Location) (disk after : Disk) : Prop where
  current : after.current = disk.current
  each : ∀ l, l ∉ touched → after.at? l = disk.at? l ∨
    disk.at? l = none ∧ after.at? l = some .directory ∧ l <+: below

variable {touched : List Location}

theorem Grows.refl (touched : List Location) (below : Location) (disk : Disk) :
    Grows touched below disk disk :=
  ⟨rfl, fun _ _ => .inl rfl⟩

theorem Grows.trans {later : Disk} (h : Grows touched below disk after)
    (g : Grows touched below after later) : Grows touched below disk later := by
  refine ⟨g.current.trans h.current, fun l free => ?_⟩
  obtain same | ⟨new, made, on_way⟩ := g.each l free
  · rw [same]
    exact h.each l free
  · obtain same | ⟨_, there, _⟩ := h.each l free
    · exact .inr ⟨same.symm.trans new, made, on_way⟩
    · cases new.symm.trans there

theorem Grows.mono {more : List Location} (h : Grows touched below disk after)
    (sub : touched ⊆ more) : Grows more below disk after :=
  ⟨h.current, fun l free => h.each l fun mem => free (sub mem)⟩

theorem Grows.put (h : Grows touched below disk after) (mem : location ∈ touched)
    (full : location ≠ []) (node : Node) : Grows touched below disk (after.put location node) := by
  refine ⟨h.current, fun l free => ?_⟩
  rw [at?_put _ full, if_neg (by rintro rfl; exact free mem)]
  exact h.each l free

theorem Grows.clear (h : Grows touched below disk after) (mem : location ∈ touched)
    (full : location ≠ []) : Grows touched below disk (after.clear location) := by
  refine ⟨h.current, fun l free => ?_⟩
  rw [at?_clear _ full, if_neg (by rintro rfl; exact free mem)]
  exact h.each l free

/-- Off the way nothing is new. -/
theorem Grows.same {l : Location} (h : Grows touched below disk after) (free : l ∉ touched)
    (off : ¬ l <+: below) : after.at? l = disk.at? l :=
  (h.each l free).resolve_right fun made => off made.2.2

/-- What is at a location or below it is the same on two disks. -/
def SameBelow (location : Location) (disk after : Disk) : Prop :=
  ∀ l, location <+: l → after.at? l = disk.at? l

theorem Grows.sameBelow (h : Grows touched below disk after)
    (free : ∀ l ∈ touched, ¬ location <+: l) (off : ¬ location <+: below) :
    SameBelow location disk after :=
  fun l under => h.same (fun mem => free l mem under) fun on_way => off (under.trans on_way)

theorem place_congr (same : after.current = disk.current) (path : String) :
    after.place path = disk.place path := by
  rw [place, place, start, start, same]

/-- A directory that is made is new, and lies where its path leads. -/
theorem grows_makeDirectory (plain : ".." ∉ namesOf path) (on_way : disk.place path <+: below)
    (h : disk.makeDirectory path = .ok after) : Grows [] below disk after := by
  obtain ⟨parent, name, split, free, rfl⟩ := makeDirectory_eq_ok h
  have new : parent ++ [name] ≠ [] := by simp
  rw [← place_of_split plain split] at on_way
  refine ⟨rfl, fun l _ => ?_⟩
  rw [at?_put disk new]
  by_cases here : l = parent ++ [name]
  · subst here
    exact .inr ⟨free, if_pos rfl, on_way⟩
  · exact .inl (if_neg here)

/-- What is removed lies where its path leads. -/
theorem clear_of_remove (plain : ".." ∉ namesOf path) (h : disk.remove path = .ok after) :
    after = disk.clear (disk.place path) := by
  obtain ⟨location, _, opens, _, rfl⟩ := remove_eq_ok h
  rw [opens.eq_place plain]

end Disk

namespace Replacement

open Program Disk

variable {start disk after : Disk} {path temporary : String} {below : Location} {past : List Event}

/-- A file has been opened for writing. -/
def Opened (path : String) (past : List Event) : Prop :=
  (⟨.create path, Except.ok ()⟩ : Event) ∈ past

/-- A file could not be removed. -/
def Stuck (path : String) (past : List Event) : Prop :=
  ∃ failure, (⟨.remove path, Except.error failure⟩ : Event) ∈ past

theorem opened_append {e : Event} :
    Opened path (past ++ [e]) ↔ Opened path past ∨ e = ⟨.create path, Except.ok ()⟩ := by
  simp [Opened, eq_comm]

/-! ## Directories -/

/-- While directories are made no file has been opened yet. -/
def Ready (start : Disk) (below : Location) (temporary : String) (past : List Event)
    (disk : Disk) : Prop :=
  ¬ Opened temporary past ∧ Grows [] below start disk

/-- Nothing but its creation opens a file. -/
theorem Ready.next (ready : Ready start below temporary past disk) {e : Event}
    (other : e ≠ ⟨.create temporary, Except.ok ()⟩) (grown : Grows [] below start after) :
    Ready start below temporary (past ++ [e]) after :=
  ⟨fun opened => (opened_append.1 opened).elim ready.1 other, grown⟩

theorem Ready.makeDirectory (ready : Ready start below temporary past disk)
    (plain : ".." ∉ namesOf path) (on_way : start.place path <+: below)
    {answer : Except Failure Unit} (granted : disk.Answers (.makeDirectory path) answer after) :
    Ready start below temporary (past ++ [⟨.makeDirectory path, answer⟩]) after := by
  have other : (⟨.makeDirectory path, answer⟩ : Event) ≠ ⟨.create temporary, Except.ok ()⟩ :=
    fun same => by cases congrArg Event.request same
  obtain ⟨_, made⟩ | ⟨_, rfl⟩ := granted
  · rw [← place_congr ready.2.current] at on_way
    exact ready.next other (ready.2.trans (grows_makeDirectory plain on_way made))
  · exact ready.next other ready.2

theorem ensures_unlessThere (ready : Ready start below temporary past disk)
    (outcome : Except Failure Unit) :
    (makeDirectories.unlessThere path outcome).Ensures (Ready start below temporary)
      (fun _ => Ready start below temporary) past disk := by
  cases outcome with
  | ok _ => exact ensures_pure ready ready
  | error failure =>
    refine ensures_request ready fun answer after granted => ?_
    obtain ⟨_, rfl⟩ := granted
    have ready' : Ready start below temporary (past ++ [⟨.isDirectory path, answer⟩]) after :=
      ready.next (fun same => by cases congrArg Event.request same) ready.2
    cases answer
    · exact ensures_pure ready' ready'
    · exact ensures_pure ready' ready'

/-- On the way to a path directories may be made, and nothing else happens. -/
theorem ensures_makeDirectories (fuel : Nat) (plain : ".." ∉ namesOf path)
    (on_way : start.place path <+: below) (ready : Ready start below temporary past disk) :
    (makeDirectories fuel path).Ensures (Ready start below temporary)
      (fun _ => Ready start below temporary) past disk := by
  have again {past : List Event} {disk : Disk} (ready : Ready start below temporary past disk)
      {path : String} (plain : ".." ∉ namesOf path) (on_way : start.place path <+: below) :
      (do makeDirectories.unlessThere path (← Program.makeDirectory path) :
        Program (Except Failure Unit)).Ensures (Ready start below temporary)
        (fun _ => Ready start below temporary) past disk :=
    ensures_request ready fun answer _ granted =>
      ensures_unlessThere (ready.makeDirectory plain on_way granted) answer
  induction fuel generalizing path past disk with
  | zero => exact ensures_pure ready ready
  | succ fuel ih =>
    rw [makeDirectories]
    refine ensures_request ready fun answer after granted => ?_
    have ready' := ready.makeDirectory plain on_way granted
    generalize past ++ [_] = past' at ready' ⊢
    split
    · exact ensures_pure ready' ready'
    · split
      · exact ensures_pure ready' ready'
      · exact again ready' plain on_way
      · rename_i parent _ above
        have inner := Path.place_parent? start above
        refine ensures_bind ((ih (inner.2 plain) (inner.1.trans on_way) ready').mono
          (fun _ _ h => h) fun made past disk _ ready => ?_)
        split
        · exact ensures_pure ready ready
        · exact again ready plain on_way
    · exact ensures_unlessThere ready' _

theorem ensures_prepareDirectory {parent : String} (above : Path.parent? path = some parent)
    (plain : ".." ∉ namesOf path) (ready : Ready start (start.place parent) temporary past disk) :
    (prepareDirectory path).Ensures (Ready start (start.place parent) temporary)
      (fun _ => Ready start (start.place parent) temporary) past disk := by
  have inner := Path.place_parent? start above
  rw [prepareDirectory, above]
  split
  · exact ensures_pure ready ready
  · exact ensures_pure ready ready
  · rename_i same
    cases same
    refine ensures_bind ((ensures_makeDirectories _ (inner.2 plain) List.prefix_rfl ready).mono
      (fun _ _ h => h) fun made past disk _ ready => ?_)
    cases made
    · exact ensures_pure ready ready
    · exact ensures_pure ready ready

/-! ## The file beside -/

/-- The file beside has been opened, and holds some bytes. -/
structure Written (start : Disk) (below : Location) (temporary : String) (left : List UInt8)
    (past : List Event) (disk : Disk) : Prop where
  opened : Opened temporary past
  grown : ∃ ready, Grows [] below start ready ∧ ready.Opens temporary (start.place temporary) ∧
    disk = ready.put (start.place temporary) (.file left)

variable {bytes left : List UInt8}

theorem Ready.create (ready : Ready start below temporary past disk)
    (plain : ".." ∉ namesOf temporary) {answer : Except Failure Unit}
    (granted : disk.Answers (.create temporary) answer after) :
    let past' := past ++ [⟨.create temporary, answer⟩]
    (answer = .ok () ∧ Written start below temporary [] past' after) ∨
      (∃ failure, answer = .error failure) ∧ Ready start below temporary past' after := by
  obtain ⟨rfl, created⟩ | ⟨⟨failure, rfl⟩, rfl⟩ := granted
  · refine .inl ⟨rfl, opened_append.2 (.inr rfl), disk, ready.2, ?_⟩
    obtain ⟨location, opens, rfl⟩ := create_eq_ok created
    have at_place := opens.eq_place plain
    rw [place_congr ready.2.current] at at_place
    exact ⟨at_place ▸ opens, by rw [at_place]⟩
  · exact .inr ⟨⟨failure, rfl⟩, ready.next (fun same => by cases same) ready.2⟩

theorem Written.opens (written : Written start below temporary left past disk) :
    disk.Opens temporary (start.place temporary) ∧
      disk.at? (start.place temporary) = some (.file left) := by
  obtain ⟨_, ready, _, opens, rfl⟩ := written
  exact (opens.put left).symm

/-- Whatever happens to the file that is being written, all else stays as it is. -/
theorem Written.again (written : Written start below temporary left past disk)
    (more : List UInt8) (e : Event) :
    Written start below temporary more (past ++ [e])
      (disk.put (start.place temporary) (.file more)) := by
  obtain ⟨opened, ready, grown, opens, rfl⟩ := written
  exact ⟨opened_append.2 (.inl opened), ready, grown, opens, put_put ..⟩

theorem Written.same (written : Written start below temporary left past disk) (e : Event) :
    Written start below temporary left (past ++ [e]) disk :=
  ⟨opened_append.2 (.inl written.opened), written.grown⟩

theorem Written.spoiled (written : Written start below temporary left past disk)
    (plain : ".." ∉ namesOf temporary) (spoils : disk.Spoils temporary after) (e : Event) :
    ∃ more, Written start below temporary more (past ++ [e]) after := by
  obtain rfl | ⟨location, more, opens, rfl⟩ := spoils
  · exact ⟨left, written.same e⟩
  · rw [opens.eq_place plain, ← written.opens.1.eq_place plain]
    exact ⟨more, written.again more e⟩

theorem Written.write (written : Written start below temporary left past disk)
    (plain : ".." ∉ namesOf temporary) {answer : Except Failure Unit}
    (granted : disk.Answers (.write temporary bytes) answer after) :
    let past' := past ++ [⟨.write temporary bytes, answer⟩]
    (answer = .ok () ∧ Written start below temporary (left ++ bytes) past' after) ∨
      (∃ failure, answer = .error failure) ∧
        ∃ more, Written start below temporary more past' after := by
  obtain ⟨rfl, done⟩ | ⟨failed, spoils⟩ := granted
  · obtain ⟨opens, holds⟩ := written.opens
    rw [Disk.write, openFile_of_opens opens, held, holds] at done
    cases done
    exact .inl ⟨rfl, written.again _ _⟩
  · exact .inr ⟨failed, written.spoiled plain spoils _⟩

theorem Written.sync (written : Written start below temporary left past disk)
    (plain : ".." ∉ namesOf temporary) {answer : Except Failure Unit}
    (granted : disk.Answers (.sync temporary) answer after) :
    let past' := past ++ [⟨.sync temporary, answer⟩]
    (answer = .ok () ∧ Written start below temporary left past' after) ∨
      (∃ failure, answer = .error failure) ∧
        ∃ more, Written start below temporary more past' after := by
  obtain ⟨rfl, rfl⟩ | ⟨failed, spoils⟩ := granted
  · exact .inl ⟨rfl, written.same _⟩
  · exact .inr ⟨failed, written.spoiled plain spoils _⟩

/-- The file beside has taken its place. -/
def Moved (start : Disk) (below : Location) (path : String) (bytes : List UInt8) (disk : Disk) :
    Prop :=
  ∃ ready, Grows [] below start ready ∧
    (ready.clear (start.place (Path.temporary path))).Opens path (start.place path) ∧
    disk = (ready.clear (start.place (Path.temporary path))).put (start.place path) (.file bytes)

theorem Written.rename (written : Written start below (Path.temporary path) bytes past disk)
    (plain : ".." ∉ namesOf path) {answer : Except Failure Unit}
    (granted : disk.Answers (.rename (Path.temporary path) path) answer after) :
    (answer = .ok () ∧ Moved start below path bytes after) ∨
      (∃ failure, answer = .error failure) ∧ Written start below (Path.temporary path) bytes
        (past ++ [⟨.rename (Path.temporary path) path, answer⟩]) after := by
  obtain ⟨rfl, done⟩ | ⟨failed, rfl⟩ := granted
  · refine .inl ⟨rfl, ?_⟩
    obtain ⟨opens, holds⟩ := written.opens
    obtain ⟨_, new, _, _, _, target, _⟩ := rename_eq_ok done
    rw [rename_of_opens opens holds target] at done
    obtain ⟨_, ready, grown, prepared, rfl⟩ := written
    have at_place := target.eq_place plain
    rw [place_congr (show (ready.put _ _).current = start.current from grown.current)] at at_place
    subst at_place
    cases done
    exact ⟨ready, grown, (keeps_replaced prepared target).2, by rw [clear_put]⟩
  · exact .inr ⟨failed, written.same _⟩

/-- There is no file beside. -/
def Cleared (start : Disk) (below : Location) (temporary : String) (disk : Disk) : Prop :=
  ∃ ready, Grows [] below start ready ∧ disk = ready.clear (start.place temporary)

theorem Ready.remove (ready : Ready start below temporary past disk)
    (plain : ".." ∉ namesOf temporary) {answer : Except Failure Unit}
    (granted : disk.Answers (.remove temporary) answer after) :
    Ready start below temporary (past ++ [⟨.remove temporary, answer⟩]) after ∨
      Cleared start below temporary after := by
  obtain ⟨_, done⟩ | ⟨_, rfl⟩ := granted
  · refine .inr ⟨disk, ready.2, ?_⟩
    rw [clear_of_remove plain done, place_congr ready.2.current]
  · exact .inl (ready.next (fun same => by cases congrArg Event.request same) ready.2)

theorem Written.remove (written : Written start below temporary left past disk)
    (plain : ".." ∉ namesOf temporary) {answer : Except Failure Unit}
    (granted : disk.Answers (.remove temporary) answer after) :
    let past' := past ++ [⟨.remove temporary, answer⟩]
    Cleared start below temporary after ∨
      Written start below temporary left past' after ∧ Stuck temporary past' := by
  obtain ⟨_, done⟩ | ⟨⟨failure, rfl⟩, rfl⟩ := granted
  · obtain ⟨_, ready, grown, opens, rfl⟩ := written
    refine .inl ⟨ready, grown, ?_⟩
    rw [clear_of_remove plain done,
      place_congr (show (ready.put _ _).current = start.current from grown.current), clear_put]
  · exact .inr ⟨written.same _, failure, List.mem_append_right _ (List.mem_singleton_self _)⟩

/-! ## The whole replacement -/

/-- All that a disk may be like while a file is replaced. -/
inductive Stage (start : Disk) (below : Location) (path : String) (bytes : List UInt8)
    (past : List Event) (disk : Disk) : Prop
  | ready (h : Ready start below (Path.temporary path) past disk)
  | written (left : List UInt8) (h : Written start below (Path.temporary path) left past disk)
  | cleared (h : Cleared start below (Path.temporary path) disk)
  | moved (h : Moved start below path bytes disk)

/-- The file beside has not taken its place. -/
def Unmoved (start : Disk) (below : Location) (temporary : String) (past : List Event)
    (disk : Disk) : Prop :=
  Ready start below temporary past disk ∨ ∃ left, Written start below temporary left past disk

/-- The file beside has not taken its place, and if it was opened it is gone or could not be
removed. -/
def Undone (start : Disk) (below : Location) (temporary : String) (past : List Event)
    (disk : Disk) : Prop :=
  Ready start below temporary past disk ∨ Cleared start below temporary disk ∨
    ∃ left, Written start below temporary left past disk ∧ Stuck temporary past

/-- One thing holds after a success, and another one after a failure. -/
def Either (good bad : List Event → Disk → Prop) (outcome : Except WriteError Unit)
    (past : List Event) (disk : Disk) : Prop :=
  (outcome = .ok () ∧ good past disk) ∨ (∃ e, outcome = .error e) ∧ bad past disk

theorem ensures_writeNew (plain : ".." ∉ namesOf (Path.temporary path))
    (ready : Ready start below (Path.temporary path) past disk) :
    (writeNew (Path.temporary path) bytes).Ensures (Stage start below path bytes)
      (Either (Written start below (Path.temporary path) bytes)
        (Unmoved start below (Path.temporary path))) past disk := by
  rw [writeNew]
  refine ensures_request (.ready ready) fun answer disk granted => ?_
  obtain ⟨rfl, written⟩ | ⟨⟨failure, rfl⟩, ready⟩ := ready.create plain granted
  · refine ensures_request (.written _ written) fun answer disk granted => ?_
    obtain ⟨rfl, written⟩ | ⟨⟨failure, rfl⟩, more, written⟩ := written.write plain granted
    · refine ensures_request (.written _ written) fun answer disk granted => ?_
      obtain ⟨rfl, written⟩ | ⟨⟨failure, rfl⟩, more, written⟩ := written.sync plain granted
      · exact ensures_pure (.written _ written) (.inl ⟨rfl, written⟩)
      · exact ensures_pure (.written _ written) (.inr ⟨⟨_, rfl⟩, .inr ⟨_, written⟩⟩)
    · exact ensures_pure (.written _ written) (.inr ⟨⟨_, rfl⟩, .inr ⟨_, written⟩⟩)
  · exact ensures_pure (.ready ready) (.inr ⟨⟨_, rfl⟩, .inl ready⟩)

theorem ensures_swap (plain : ".." ∉ namesOf path)
    (plain_temporary : ".." ∉ namesOf (Path.temporary path))
    (ready : Ready start below (Path.temporary path) past disk) :
    (swap (Path.temporary path) path bytes).Ensures (Stage start below path bytes)
      (Either (fun _ => Moved start below path bytes)
        (Unmoved start below (Path.temporary path))) past disk := by
  rw [swap]
  refine ensures_bind ((ensures_writeNew plain_temporary ready).mono (fun _ _ h => h)
    fun outcome past disk stage ended => ?_)
  obtain ⟨rfl, written⟩ | ⟨⟨e, rfl⟩, unmoved⟩ := ended
  · refine ensures_request stage fun answer disk granted => ?_
    obtain ⟨rfl, moved⟩ | ⟨⟨failure, rfl⟩, written⟩ := written.rename plain granted
    · exact ensures_pure (.moved moved) (.inl ⟨rfl, moved⟩)
    · exact ensures_pure (.written _ written) (.inr ⟨⟨_, rfl⟩, .inr ⟨_, written⟩⟩)
  · exact ensures_pure stage (.inr ⟨⟨_, rfl⟩, unmoved⟩)

/-- A file that has not taken its place is removed, unless the disk refuses that. -/
theorem ensures_remove (e : WriteError) (plain : ".." ∉ namesOf (Path.temporary path))
    (unmoved : Unmoved start below (Path.temporary path) past disk) :
    (do
      let _ ← Program.remove (Path.temporary path)
      pure (.error e) : Program (Except WriteError Unit)).Ensures (Stage start below path bytes)
      (Either (fun _ => Moved start below path bytes)
        (Undone start below (Path.temporary path))) past disk := by
  obtain ready | ⟨left, written⟩ := unmoved
  · refine ensures_request (.ready ready) fun answer disk granted => ?_
    obtain ready | cleared := ready.remove plain granted
    · exact ensures_pure (.ready ready) (.inr ⟨⟨e, rfl⟩, .inl ready⟩)
    · exact ensures_pure (.cleared cleared) (.inr ⟨⟨e, rfl⟩, .inr (.inl cleared)⟩)
  · refine ensures_request (.written left written) fun answer disk granted => ?_
    obtain cleared | ⟨written, stuck⟩ := written.remove plain granted
    · exact ensures_pure (.cleared cleared) (.inr ⟨⟨e, rfl⟩, .inr (.inl cleared)⟩)
    · exact ensures_pure (.written left written)
        (.inr ⟨⟨e, rfl⟩, .inr (.inr ⟨left, written, stuck⟩)⟩)

theorem ensures_replaceFile {parent : String} (above : Path.parent? path = some parent)
    (plain : ".." ∉ namesOf path) (plain_temporary : ".." ∉ namesOf (Path.temporary path)) :
    (replaceFile path bytes).Ensures (Stage start (start.place parent) path bytes)
      (Either (fun _ => Moved start (start.place parent) path bytes)
        (Undone start (start.place parent) (Path.temporary path))) [] start := by
  have untouched : Ready start (start.place parent) (Path.temporary path) [] start :=
    ⟨by simp [Opened], .refl _ _ _⟩
  rw [replaceFile]
  refine ensures_bind ((ensures_prepareDirectory above plain untouched).mono
    (fun _ _ => .ready) fun outcome past disk _ ready => ?_)
  cases outcome with
  | error e => exact ensures_pure (.ready ready) (.inr ⟨⟨e, rfl⟩, .inl ready⟩)
  | ok _ =>
    refine ensures_bind ((ensures_swap plain plain_temporary ready).mono (fun _ _ h => h)
      fun outcome past disk stage ended => ?_)
    obtain ⟨rfl, moved⟩ | ⟨⟨e, rfl⟩, unmoved⟩ := ended
    · refine ensures_request stage fun answer after granted => ?_
      obtain rfl := granted
      exact ensures_pure (.moved moved) (.inl ⟨rfl, moved⟩)
    · exact ensures_remove e plain_temporary unmoved

/-! ## What that means for each location -/

section

variable {parent name : String}

/-- Beside the file that is replaced, there is the one in which it is prepared. -/
structure Beside (start : Disk) (path parent name : String) : Prop where
  target : start.place path = start.place parent ++ [name]
  beside : start.place (Path.temporary path) = start.place parent ++ [name ++ ".tmp"]

namespace Beside

variable (lies : Beside start path parent name)

include lies

theorem apart : start.place path ≠ start.place (Path.temporary path) := by
  rw [lies.target, lies.beside]
  intro same
  have longer := congrArg String.length (List.cons.inj (List.append_cancel_left same)).1
  simp at longer

theorem target_ne_nil : start.place path ≠ [] := by simp [lies.target]

theorem beside_ne_nil : start.place (Path.temporary path) ≠ [] := by simp [lies.beside]

theorem not_on_way : ¬ start.place path <+: start.place parent ∧
    ¬ start.place (Path.temporary path) <+: start.place parent := by
  rw [lies.target, lies.beside]
  constructor
  · intro on_way
    have longer := on_way.length_le
    simp only [List.length_append, List.length_cons, List.length_nil] at longer
    omega
  · intro on_way
    have longer := on_way.length_le
    simp only [List.length_append, List.length_cons, List.length_nil] at longer
    omega

/-- Neither file is below the other one. -/
theorem not_below : ¬ start.place path <+: start.place (Path.temporary path) ∧
    ¬ start.place (Path.temporary path) <+: start.place path := by
  have level : (start.place path).length = (start.place (Path.temporary path)).length := by
    rw [lies.target, lies.beside, List.length_append, List.length_append]
    rfl
  exact ⟨fun below => lies.apart (below.eq_of_length level),
    fun below => lies.apart (below.eq_of_length level.symm).symm⟩

end Beside

theorem Cleared.grows (lies : Beside start path parent name)
    (cleared : Cleared start (start.place parent) (Path.temporary path) disk) :
    Grows [start.place (Path.temporary path)] (start.place parent) start disk := by
  obtain ⟨ready, grown, rfl⟩ := cleared
  exact (grown.mono (List.nil_subset _)).clear (List.mem_singleton_self _) lies.beside_ne_nil

theorem Written.grows (lies : Beside start path parent name)
    (written : Written start (start.place parent) (Path.temporary path) left past disk) :
    Grows [start.place (Path.temporary path)] (start.place parent) start disk := by
  obtain ⟨_, ready, grown, _, rfl⟩ := written
  exact (grown.mono (List.nil_subset _)).put (List.mem_singleton_self _) lies.beside_ne_nil _

/-- Until the file beside takes its place, it is all that is touched. -/
theorem Stage.grows_or_moved (lies : Beside start path parent name)
    (stage : Stage start (start.place parent) path bytes past disk) :
    Grows [start.place (Path.temporary path)] (start.place parent) start disk ∨
      Moved start (start.place parent) path bytes disk := by
  cases stage with
  | ready h => exact .inl (h.2.mono (List.nil_subset _))
  | written left h => exact .inl (h.grows lies)
  | cleared h => exact .inl (h.grows lies)
  | moved h => exact .inr h

theorem Undone.grows (lies : Beside start path parent name)
    (undone : Undone start (start.place parent) (Path.temporary path) past disk) :
    Grows [start.place (Path.temporary path)] (start.place parent) start disk := by
  obtain ready | cleared | ⟨left, written, _⟩ := undone
  · exact ready.2.mono (List.nil_subset _)
  · exact cleared.grows lies
  · exact written.grows lies

/-- What is at or below a file that has not been replaced is as it was. -/
theorem sameBelow_of_grows (lies : Beside start path parent name)
    (grown : Grows [start.place (Path.temporary path)] (start.place parent) start disk) :
    SameBelow (start.place path) start disk :=
  grown.sameBelow (by simpa using lies.not_below.1) lies.not_on_way.1

theorem Cleared.free (lies : Beside start path parent name)
    (cleared : Cleared start (start.place parent) (Path.temporary path) disk) :
    disk.at? (start.place (Path.temporary path)) = none := by
  obtain ⟨ready, _, rfl⟩ := cleared
  rw [at?_clear _ lies.beside_ne_nil, if_pos rfl]

/-- What is beside after a failure: nothing, if it was opened and could be removed, and else nothing
that is new. -/
theorem Undone.beside (lies : Beside start path parent name)
    (undone : Undone start (start.place parent) (Path.temporary path) past disk) :
    (Opened (Path.temporary path) past → ¬ Stuck (Path.temporary path) past →
      disk.at? (start.place (Path.temporary path)) = none) ∧
    (¬ Opened (Path.temporary path) past →
      disk.at? (start.place (Path.temporary path)) = none ∨
        disk.at? (start.place (Path.temporary path)) =
          start.at? (start.place (Path.temporary path))) := by
  obtain ready | cleared | ⟨left, written, stuck⟩ := undone
  · exact ⟨fun opened => absurd opened ready.1, fun _ =>
      .inr (ready.2.same List.not_mem_nil lies.not_on_way.2)⟩
  · have free := cleared.free lies
    exact ⟨fun _ _ => free, fun _ => .inl free⟩
  · exact ⟨fun _ unstuck => absurd stuck unstuck, fun unopened => absurd written.opened unopened⟩

/-- A file that has been replaced holds the new bytes, and nothing is beside it. -/
theorem Moved.spec (lies : Beside start path parent name)
    (moved : Moved start (start.place parent) path bytes disk) :
    Grows [start.place path, start.place (Path.temporary path)] (start.place parent) start disk ∧
      disk.at? (start.place path) = some (.file bytes) ∧ disk.read path = .ok bytes ∧
      disk.at? (start.place (Path.temporary path)) = none := by
  obtain ⟨ready, grown, opens, rfl⟩ := moved
  obtain ⟨holds, opens'⟩ := opens.put bytes
  refine ⟨((grown.mono (List.nil_subset _)).clear (by simp) lies.beside_ne_nil).put (by simp)
    lies.target_ne_nil _, holds, read_of_opens opens' holds, ?_⟩
  rw [at?_put _ lies.target_ne_nil, if_neg lies.apart.symm, at?_clear _ lies.beside_ne_nil,
    if_pos rfl]

end

end Replacement

/-! ## Atomic replacement -/

open Program Disk Replacement

/-- **A file is replaced as a whole or not at all.** Any request may fail, the file that is written
may be spoiled, and the replacement may be cut off at any point. At each point the path holds what
it held before, or all the new bytes; nothing else has changed but for the file beside, and
directories on the way that were not there. After a success the path holds the new bytes, and
nothing is beside it. After a failure what was at the path or below it is as it was, and the file
beside is gone if it was opened and could be removed. -/
theorem replaceFile_atomic {path name : String} (named : Path.fileName? path = some name)
    (plain : ".." ∉ namesOf path) (bytes : List UInt8) {disk after : Disk} {events : List Event}
    {rest : Program (Except WriteError Unit)}
    (reached : (replaceFile path bytes).Reaches disk events rest after) :
    let target := disk.place path
    let beside := disk.place (Path.temporary path)
    (SameBelow target disk after ∨ after.at? target = some (.file bytes)) ∧
    (∀ l, l ≠ target → l ≠ beside → after.at? l = disk.at? l ∨
      disk.at? l = none ∧ after.at? l = some .directory ∧ l <+: target) ∧
    (rest = pure (.ok ()) → after.at? target = some (.file bytes) ∧ after.read path = .ok bytes ∧
      after.at? beside = none) ∧
    ∀ e, rest = pure (.error e) →
      SameBelow target disk after ∧
      (Opened (Path.temporary path) events → ¬ Stuck (Path.temporary path) events →
        after.at? beside = none) ∧
      (¬ Opened (Path.temporary path) events →
        after.at? beside = none ∨ after.at? beside = disk.at? beside) := by
  intro target beside
  obtain ⟨parent, above, at_target, at_beside, plain_beside⟩ := Path.place_temporary disk named
  have lies : Beside disk path parent name := ⟨at_target, at_beside⟩
  have ensured := (ensures_replaceFile above plain (plain_beside plain)).of_reaches reached
  rw [List.nil_append] at ensured
  have on_way : disk.place parent <+: disk.place path := ⟨[name], at_target.symm⟩
  refine ⟨?_, fun l off_target off_beside => ?_, ?_, ?_⟩
  · obtain grown | moved := ensured.now.grows_or_moved lies
    · exact .inl (sameBelow_of_grows lies grown)
    · exact .inr (moved.spec lies).2.1
  · have grown : Grows [target, beside] (disk.place parent) disk after := by
      obtain grown | moved := ensured.now.grows_or_moved lies
      · exact grown.mono (by simp [beside])
      · exact (moved.spec lies).1
    obtain same | ⟨new, made, further⟩ := grown.each l (by simp [off_target, off_beside])
    · exact .inl same
    · exact .inr ⟨new, made, further.trans on_way⟩
  · rintro rfl
    obtain ⟨_, moved⟩ | ⟨⟨e, failed⟩, _⟩ := ensured.at_end
    · exact (moved.spec lies).2
    · cases failed
  · rintro e rfl
    obtain ⟨done, _⟩ | ⟨_, undone⟩ := ensured.at_end
    · cases done
    · exact ⟨sameBelow_of_grows lies (undone.grows lies), undone.beside lies⟩

/-- A disk with a file that is to be replaced. -/
def oldDisk : Disk := ⟨Std.ExtTreeMap.empty.insert ["a"] (.file [7]), []⟩

/-- The disk is full after one byte, and the file beside is removed. -/
theorem replaceFile_atomic_full : ∃ events after e,
    (replaceFile "a" [1, 2]).Reaches oldDisk events (pure (.error e)) after ∧
      after.at? ["a"] = some (.file [7]) ∧ after.at? ["a.tmp"] = none := by
  have opens : oldDisk.Opens "a.tmp" ["a.tmp"] :=
    ⟨[], "a.tmp", eq_ok_of_toOption (by decide +kernel), rfl, by decide +kernel,
      by decide +kernel⟩
  have created : oldDisk.create "a.tmp" = .ok (oldDisk.put ["a.tmp"] (.file [])) := by
    rw [Disk.create, openFile_of_opens opens]
    rfl
  have removed : ((oldDisk.put ["a.tmp"] (.file [])).put ["a.tmp"] (.file [1])).remove "a.tmp" =
      .ok (((oldDisk.put ["a.tmp"] (.file [])).put ["a.tmp"] (.file [1])).clear ["a.tmp"]) := by
    have found : ((oldDisk.put ["a.tmp"] (.file [])).put ["a.tmp"] (.file [1])).removal "a.tmp" =
        .ok ["a.tmp"] := eq_ok_of_toOption (by decide +kernel)
    rw [Disk.remove, found]
    rfl
  have parent : Path.parent? "a" = some "" := by decide +kernel
  have beside : Path.temporary "a" = "a.tmp" := by decide +kernel
  have at_a : oldDisk.place "a" = ["a"] := by decide +kernel
  have at_beside : oldDisk.place "a.tmp" = ["a.tmp"] := by decide +kernel
  have reached : (replaceFile "a" [1, 2]).Reaches oldDisk
      [⟨.create "a.tmp", Except.ok ()⟩, ⟨.write "a.tmp" [1, 2], Except.error (.other "full")⟩,
        ⟨.remove "a.tmp", Except.ok ()⟩]
      (pure (.error (.operation "write" "a.tmp" (.other "full"))))
      (((oldDisk.put ["a.tmp"] (.file [])).put ["a.tmp"] (.file [1])).clear ["a.tmp"]) := by
    rw [replaceFile, prepareDirectory, parent, beside]
    have spoils : (oldDisk.put ["a.tmp"] (.file [])).Spoils "a.tmp"
        ((oldDisk.put ["a.tmp"] (.file [])).put ["a.tmp"] (.file [1])) :=
      .inr ⟨_, [1], (opens.put []).2, rfl⟩
    exact .step (.inl ⟨rfl, created⟩) (.step (.inr ⟨⟨_, rfl⟩, spoils⟩)
      (.step (.inl ⟨rfl, removed⟩) (.here _ _)))
  obtain ⟨_, _, _, failed⟩ :=
    @replaceFile_atomic "a" "a" (by decide +kernel) (by decide +kernel) [1, 2] _ _ _ _ reached
  obtain ⟨kept, gone, _⟩ := failed _ rfl
  rw [beside, at_beside] at gone
  refine ⟨_, _, _, reached, (kept ["a"] (at_a ▸ List.prefix_rfl)).trans (by decide +kernel),
    gone List.mem_cons_self ?_⟩
  rintro ⟨failure, mem⟩
  simp only [List.mem_cons, List.not_mem_nil, or_false] at mem
  obtain same | same | same := mem
  · cases congrArg Event.request same
  · cases congrArg Event.request same
  · cases same

end WidgetBindings
