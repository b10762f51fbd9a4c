import WidgetBindings.Proofs.Disk.Location
import WidgetBindings.Proofs.Path.Endings
import WidgetBindings.Replacement

/-!
# Programs that change few files

* `Only`: whatever the answers are, a program makes requests of a kind only;
* `Request.Within`: a request changes files at some paths only, and opens no file for the log;
* `Only.keeps`: a program of such requests keeps all other files, wherever it is cut off and
  whatever fails.
-/

namespace WidgetBindings

/-- The request may make directories, but it changes files at these paths only. -/
def Request.Within (paths : List String) : Request → Prop
  | .makeDirectory _ | .isDirectory _ | .read _ | .report _ _ | .today => True
  | .create path | .write path _ | .sync path | .remove path => path ∈ paths
  | .rename source target => source ∈ paths ∧ target ∈ paths
  | .openLog _ file => file = none

theorem Request.Within.mono {paths more : List String} (sub : paths ⊆ more) {r : Request}
    (h : r.Within paths) : r.Within more := by
  cases r with
  | makeDirectory | isDirectory | read | report | today => trivial
  | create | write | sync | remove => exact sub h
  | rename source target => exact ⟨sub h.1, sub h.2⟩
  | openLog style file => exact h

/-- And it does not ask for the date. -/
def Request.Timeless (paths : List String) : Request → Prop
  | .today => False
  | r => r.Within paths

theorem Request.Timeless.within {paths : List String} {r : Request} (h : r.Timeless paths) :
    r.Within paths := by
  cases r with
  | today => exact h.elim
  | _ => exact h

theorem Request.Timeless.mono {paths more : List String} (sub : paths ⊆ more) {r : Request}
    (h : r.Timeless paths) : r.Timeless more := by
  cases r with
  | today => exact h
  | _ => exact Request.Within.mono sub (Request.Timeless.within h)

namespace Disk

variable {disk after : Disk} {paths : List String}

theorem Tries.keeps {outcome : Except Failure Disk} {answer : Except Failure Unit}
    {touched : List Location} (tries : disk.Tries outcome answer after)
    (h : outcome = .ok after → Keeps touched disk after) : Keeps touched disk after := by
  obtain ⟨_, done⟩ | ⟨_, rfl⟩ := tries
  · exact h done
  · exact .refl _ _

/-- However a request is answered, all else is kept. -/
theorem keeps_of_answers {r : Request} {answer : r.Answer} (within : r.Within paths)
    (granted : disk.Answers r answer after) : Keeps (paths.map disk.location) disk after := by
  have one {path : String} (mem : path ∈ paths) (h : Keeps [disk.location path] disk after) :
      Keeps (paths.map disk.location) disk after :=
    h.mono (by simpa using ⟨path, mem, rfl⟩)
  cases r with
  | makeDirectory path =>
    exact granted.keeps fun made => (keeps_makeDirectory made).1.mono (by simp)
  | create path => exact one within (granted.keeps keeps_create)
  | remove path => exact one within (granted.keeps keeps_remove)
  | rename source target =>
    refine (granted.keeps keeps_rename).mono fun l mem => ?_
    simp only [List.mem_cons, List.not_mem_nil, or_false] at mem
    obtain rfl | rfl := mem
    · exact List.mem_map_of_mem within.1
    · exact List.mem_map_of_mem within.2
  | write path bytes =>
    obtain ⟨_, done⟩ | ⟨_, spoils⟩ := granted
    · exact one within (keeps_write done)
    · exact one within (keeps_spoils spoils)
  | sync path =>
    obtain ⟨_, rfl⟩ | ⟨_, spoils⟩ := granted
    · exact .refl _ _
    · exact one within (keeps_spoils spoils)
  | isDirectory | read =>
    obtain ⟨_, rfl⟩ := granted
    exact .refl _ _
  | openLog | report | today =>
    obtain rfl := granted
    exact .refl _ _

end Disk

namespace Program

variable {α β : Type} {allowed : Request → Prop}

/-- Whatever the answers are, the program makes requests of a kind only. -/
def Only (allowed : Request → Prop) : Program α → Prop
  | .done _ => True
  | .ask r next => allowed r ∧ ∀ answer, (next answer).Only allowed

theorem only_pure (a : α) : (pure a : Program α).Only allowed := trivial

theorem only_ask_iff {r : Request} {next : r.Answer → Program α} :
    (ask r next).Only allowed ↔ allowed r ∧ ∀ answer, (next answer).Only allowed := Iff.rfl

theorem only_request {r : Request} (h : allowed r) : (request r).Only allowed :=
  ⟨h, fun _ => trivial⟩

theorem only_bind {p : Program α} {f : α → Program β} (first : p.Only allowed)
    (rest : ∀ a, p.MayReturn a → (f a).Only allowed) : (p >>= f).Only allowed := by
  change (p.bind f).Only allowed
  induction p with
  | done a => exact rest a (.done a)
  | ask r next ih =>
    exact ⟨first.1, fun answer => ih answer (first.2 answer) fun a h => rest a (.ask answer h)⟩

theorem Only.mono {other : Request → Prop} (sub : ∀ r, allowed r → other r) {p : Program α}
    (h : p.Only allowed) : p.Only other := by
  induction p with
  | done a => trivial
  | ask r next ih => exact ⟨sub _ h.1, fun answer => ih answer (h.2 answer)⟩

theorem OnlyLooks.within {paths : List String} {p : Program α} (h : p.OnlyLooks) :
    p.Only (Request.Within paths) := by
  induction p with
  | done a => trivial
  | ask r next ih =>
    refine ⟨?_, fun answer => ih answer (h.2 answer)⟩
    cases r <;> first | trivial | cases h.1

variable {paths : List String}

theorem only_span {span : Log.Span} {p : Program α} (h : p.Only (Request.Within paths)) :
    (Program.within span p).Only (Request.Within paths) := by
  induction p with
  | done a => trivial
  | ask r next ih => cases r <;> exact ⟨h.1, fun answer => ih answer (h.2 answer)⟩

/-- All files but those at some paths are kept, wherever the program is cut off. -/
theorem Only.keeps {p rest : Program α} {disk after : Disk} {events : List Event}
    (h : p.Only (Request.Within paths)) (reached : p.Reaches disk events rest after) :
    Disk.Keeps (paths.map disk.location) disk after := by
  induction reached with
  | here => exact .refl _ _
  | @step _ _ disk between _ _ _ _ granted _ ih =>
    have first := Disk.keeps_of_answers h.1 granted
    have others := ih (h.2 _)
    rw [show _ = disk.location from funext first.location_eq] at others
    exact first.trans others

-- From here on only the lemmas are used: to unfold it is to carry the program out.
attribute [irreducible] Only

end Program

/-! ## Replacing a file -/

open Program Replacement

theorem only_unlessThere {paths : List String} (path : String) (outcome : Except Failure Unit) :
    (makeDirectories.unlessThere path outcome).Only (Request.Timeless paths) := by
  cases outcome with
  | ok _ => exact only_pure _
  | error failure =>
    refine only_bind (only_request trivial) fun there _ => ?_
    cases there <;> exact only_pure _

theorem only_makeDirectories {paths : List String} (fuel : Nat) (path : String) :
    (makeDirectories fuel path).Only (Request.Timeless paths) := by
  induction fuel generalizing path with
  | zero => exact only_pure _
  | succ fuel ih =>
    have again : (Program.makeDirectory path >>= fun outcome =>
        makeDirectories.unlessThere path outcome).Only (Request.Timeless paths) :=
      only_bind (only_request trivial) fun outcome _ => only_unlessThere path outcome
    rw [makeDirectories]
    refine only_bind (only_request trivial) fun outcome _ => ?_
    split
    · exact only_pure _
    · split
      · exact only_pure _
      · exact again
      · refine only_bind (ih _) fun made _ => ?_
        split
        · exact only_pure _
        · exact again
    · exact only_unlessThere path _

theorem only_prepareDirectory {paths : List String} (path : String) :
    (prepareDirectory path).Only (Request.Timeless paths) := by
  unfold prepareDirectory
  split
  · exact only_pure _
  · exact only_pure _
  · refine only_bind (only_makeDirectories ..) fun outcome _ => ?_
    cases outcome <;> exact only_pure _

theorem only_writeNew {paths : List String} {path : String} (mem : path ∈ paths)
    (bytes : List UInt8) : (writeNew path bytes).Only (Request.Timeless paths) := by
  refine only_bind (only_request mem) fun created _ => ?_
  cases created with
  | error failure => exact only_pure _
  | ok _ =>
    refine only_bind (only_request mem) fun written _ => ?_
    cases written with
    | error failure => exact only_pure _
    | ok _ =>
      refine only_bind (only_request mem) fun stored _ => ?_
      cases stored <;> exact only_pure _

/-- A file is replaced by way of its path and the one beside it. -/
theorem only_replaceFile (path : String) (bytes : List UInt8) :
    (replaceFile path bytes).Only (Request.Timeless (Path.written path)) := by
  have target := Path.mem_written path
  have beside := Path.temporary_mem_written path
  refine only_bind (only_prepareDirectory path) fun prepared _ => ?_
  cases prepared with
  | error e => exact only_pure _
  | ok _ =>
    have swapped : (swap (Path.temporary path) path bytes).Only
        (Request.Timeless (Path.written path)) := by
      refine only_bind (only_writeNew beside bytes) fun written _ => ?_
      cases written with
      | error e => exact only_pure _
      | ok _ =>
        refine only_bind (only_request ⟨beside, target⟩) fun moved _ => ?_
        cases moved <;> exact only_pure _
    refine only_bind swapped fun outcome _ => ?_
    cases outcome with
    | error e => exact only_bind (only_request beside) fun _ _ => only_pure _
    | ok _ => exact only_bind (only_request trivial) fun _ _ => only_pure _

end WidgetBindings
