import WidgetBindings.Proofs.Disk.Atomic

/-!
# Disks that are trees

On a tree whatever is found is found in a directory, and it stays one whatever happens
(`IsTree.reached`). What can be read at a path is known from what is on the way to it: `Grows.read`
takes it from one disk to a grown one, and `Grows.read_back` from there back again, which a tree is
needed for.
-/

namespace WidgetBindings.Disk

open Program

variable {disk after : Disk} {path : String} {location below : Location} {touched : List Location}
  {bytes : List UInt8}

/-- Whatever is found is found in a directory. -/
def IsTree (disk : Disk) : Prop :=
  ∀ (l : Location) (name : String), (disk.at? (l ++ [name])).isSome →
    disk.at? l = some .directory

namespace IsTree

variable (tree : disk.IsTree)

include tree

/-- Something is at each location on the way to one where something is. -/
theorem on_way {l m : Location} (way : l <+: m) (there : (disk.at? m).isSome) :
    (disk.at? l).isSome := by
  obtain ⟨rest, rfl⟩ := way
  induction rest generalizing l with
  | nil => rwa [List.append_nil] at there
  | cons name rest ih =>
    have next := ih (l := l ++ [name]) (by rwa [List.append_assoc, List.singleton_append])
    rw [tree l name next]
    rfl

/-! ## Single changes -/

theorem put {parent : Location} {name : String} (inside : disk.at? parent = some .directory)
    {node : Node} (kept : disk.at? (parent ++ [name]) = some .directory → node = .directory) :
    (disk.put (parent ++ [name]) node).IsTree := by
  intro l last there
  have new : parent ++ [name] ≠ [] := by simp
  rw [at?_put _ new] at there ⊢
  have above : disk.at? l = some .directory := by
    by_cases here : l ++ [last] = parent ++ [name]
    · rwa [(List.append_inj' here rfl).1]
    · rw [if_neg here] at there
      exact tree l last there
  by_cases same : l = parent ++ [name]
  · subst same
    rw [if_pos rfl, kept above]
  · rwa [if_neg same]

theorem putFile (opens : disk.Opens path location) (bytes : List UInt8) :
    (disk.put location (.file bytes)).IsTree := by
  obtain ⟨parent, name, split, rfl, _, free⟩ := opens
  exact tree.put (split_eq_ok_iff.1 split).2.2.1 fun directory => absurd directory free

theorem clear (full : location ≠ []) (leaf : disk.at? location ≠ some .directory) :
    (disk.clear location).IsTree := by
  intro l last there
  rw [at?_clear _ full] at there ⊢
  by_cases here : l ++ [last] = location
  · rw [if_pos here] at there
    cases there
  · rw [if_neg here] at there
    have above := tree l last there
    rwa [if_neg]
    rintro rfl
    exact leaf above

theorem makeDirectory (h : disk.makeDirectory path = .ok after) : after.IsTree := by
  obtain ⟨parent, name, split, _, rfl⟩ := makeDirectory_eq_ok h
  exact tree.put (split_eq_ok_iff.1 split).2.2.1 fun _ => rfl

theorem create (h : disk.create path = .ok after) : after.IsTree := by
  obtain ⟨location, opens, rfl⟩ := create_eq_ok h
  exact tree.putFile opens []

theorem write (h : disk.write path bytes = .ok after) : after.IsTree := by
  obtain ⟨location, opens, rfl⟩ := write_eq_ok h
  exact tree.putFile opens _

theorem spoils (h : disk.Spoils path after) : after.IsTree := by
  obtain rfl | ⟨location, left, opens, rfl⟩ := h
  · exact tree
  · exact tree.putFile opens left

theorem remove (h : disk.remove path = .ok after) : after.IsTree := by
  obtain ⟨location, bytes, opens, file, rfl⟩ := remove_eq_ok h
  exact tree.clear opens.ne_nil (by rw [file]; simp)

theorem rename {source target : String} (h : disk.rename source target = .ok after) :
    after.IsTree := by
  obtain ⟨old, new, bytes, from_old, file, opens, rfl⟩ := rename_eq_ok h
  have full := from_old.ne_nil
  obtain ⟨parent, name, split, rfl, _, free⟩ := opens
  have inside := (split_eq_ok_iff.1 split).2.2.1
  refine (tree.clear full (by rw [file]; simp)).put ?_ ?_
  · rw [at?_clear _ full, if_neg, inside]
    rintro rfl
    cases inside.symm.trans file
  · rw [at?_clear _ full]
    split
    · intro directory
      cases directory
    · exact fun directory => absurd directory free

/-- A tree stays a tree, whatever it is asked for and however it answers. -/
theorem answers {r : Request} {answer : r.Answer} (granted : disk.Answers r answer after) :
    after.IsTree := by
  cases r with
  | makeDirectory path =>
    obtain ⟨_, done⟩ | ⟨_, rfl⟩ := granted
    · exact tree.makeDirectory done
    · exact tree
  | create path =>
    obtain ⟨_, done⟩ | ⟨_, rfl⟩ := granted
    · exact tree.create done
    · exact tree
  | rename source target =>
    obtain ⟨_, done⟩ | ⟨_, rfl⟩ := granted
    · exact tree.rename done
    · exact tree
  | remove path =>
    obtain ⟨_, done⟩ | ⟨_, rfl⟩ := granted
    · exact tree.remove done
    · exact tree
  | write path bytes =>
    obtain ⟨_, done⟩ | ⟨_, spoils⟩ := granted
    · exact tree.write done
    · exact tree.spoils spoils
  | sync path =>
    obtain ⟨_, rfl⟩ | ⟨_, spoils⟩ := granted
    · exact tree
    · exact tree.spoils spoils
  | isDirectory | read =>
    obtain ⟨_, rfl⟩ := granted
    exact tree
  | openLog | report | today =>
    obtain rfl := granted
    exact tree

omit tree in
/-- A tree stays a tree while a program is carried out. -/
theorem reached {α : Type} {p rest : Program α} {events : List Event} (tree : disk.IsTree)
    (reached : p.Reaches disk events rest after) : after.IsTree := by
  induction reached with
  | here => exact tree
  | step granted _ ih => exact ih (tree.answers granted)

end IsTree

/-! ## What can be read -/

/-- Names without double dots lead to the same location wherever the same is on the way. -/
theorem Leads.transfer {here : Location} {names : List String} (plain : ".." ∉ names)
    (same : ∀ l, l <+: location → (disk.at? l).isSome → after.at? l = disk.at? l)
    (h : disk.Leads here names location) : after.Leads here names location := by
  have on_way := h.eq plain
  induction h with
  | done here => exact .done here
  | @stay here location names found rest ih =>
    have inner := List.not_mem_of_not_mem_cons plain
    have here_on_way : here <+: location := ⟨_, on_way.symm⟩
    have found' := (same here here_on_way (by rw [found]; rfl)).trans found
    exact .stay found' (ih inner same (rest.eq inner))
  | up => exact absurd List.mem_cons_self plain
  | @down here location name names found dot dots short there rest ih =>
    have inner := List.not_mem_of_not_mem_cons plain
    have here_on_way : here <+: location := ⟨_, on_way.symm⟩
    have found' := (same here here_on_way (by rw [found]; rfl)).trans found
    have next := same (here ++ [name]) ⟨_, (rest.eq inner).symm⟩ there
    exact .down found' dot dots short (by rwa [next]) (ih inner same (rest.eq inner))

/-- The same can be read at a path wherever the same is on the way to it. -/
theorem read_of_same (plain : ".." ∉ namesOf path) (current : after.current = disk.current)
    (same : ∀ l, l <+: disk.place path → (disk.at? l).isSome → after.at? l = disk.at? l)
    (h : disk.read path = .ok bytes) : after.read path = .ok bytes := by
  obtain ⟨location, found⟩ := read_eq_ok_iff.1 h
  obtain rfl := place_of_find plain found
  obtain ⟨checked, leads, there, slash⟩ := find_eq_ok_iff.1 found
  have leads' := leads.transfer plain same
  rw [show disk.start path = after.start path by rw [start, start, current]] at leads'
  have there' := (same _ List.prefix_rfl (by rw [there]; rfl)).trans there
  exact read_eq_ok_iff.2 ⟨_, find_eq_ok_iff.2 ⟨checked, leads', there', slash⟩⟩

theorem at?_of_read (plain : ".." ∉ namesOf path) (h : disk.read path = .ok bytes) :
    disk.at? (disk.place path) = some (.file bytes) := by
  obtain ⟨location, found⟩ := read_eq_ok_iff.1 h
  obtain rfl := place_of_find plain found
  exact (find_eq_ok_iff.1 found).2.2.1

/-- What could be read can still be read, if nothing on the way was touched. -/
theorem Grows.read (h : Grows touched below disk after) (plain : ".." ∉ namesOf path)
    (free : ∀ l ∈ touched, ¬ l <+: disk.place path) (held : disk.read path = .ok bytes) :
    after.read path = .ok bytes := by
  refine read_of_same plain h.current (fun l way there => ?_) held
  obtain same | ⟨none, _⟩ := h.each l fun mem => free l mem way
  · exact same
  · rw [none] at there
    cases there

/-- What can be read could be read before, if it has not been touched either. -/
theorem Grows.read_back (h : Grows touched below disk after) (tree : disk.IsTree)
    (plain : ".." ∉ namesOf path) (free : ∀ l ∈ touched, ¬ l <+: disk.place path)
    (same : after.at? (disk.place path) = disk.at? (disk.place path))
    (held : after.read path = .ok bytes) : disk.read path = .ok bytes := by
  have at_place := at?_of_read plain held
  rw [place_congr h.current, same] at at_place
  refine read_of_same plain h.current.symm (fun l way _ => ?_) held
  rw [place_congr h.current] at way
  have there := tree.on_way way (by rw [at_place]; rfl)
  obtain same | ⟨none, _⟩ := h.each l fun mem => free l mem way
  · exact same.symm
  · rw [none] at there
    cases there

end WidgetBindings.Disk
