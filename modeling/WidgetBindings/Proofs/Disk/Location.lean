import WidgetBindings.Proofs.Path.Endings
import WidgetBindings.Proofs.Program.Faults

/-!
# Where any path leads

A path may go up by double dots. On a disk without links it can lead to one location only, whatever
else is on the disk (`location`), so files at other locations can still be read after some have been
touched (`Keeps.read_elsewhere`).
-/

namespace WidgetBindings.Disk

variable {disk after : Disk} {path : String} {touched : List Location} {node : Node}
  {here l parent : Location} {name : String} {names : List String}

/-- Where names lead from a location, if they lead anywhere. -/
def follow : Location → List String → Location
  | here, [] => here
  | here, name :: names =>
    if name = "." then follow here names
    else if name = ".." then follow here.dropLast names
    else follow (here ++ [name]) names

/-- Where a path leads, if it leads anywhere. -/
def location (disk : Disk) (path : String) : Location := follow (disk.start path) (namesOf path)

theorem Leads.eq_follow (h : disk.Leads here names l) : l = follow here names := by
  induction h with
  | done => rfl
  | stay _ _ ih => rwa [follow, if_pos rfl]
  | up _ _ ih => rwa [follow, if_neg (by decide), if_pos rfl]
  | down _ dot dots _ _ _ ih => rwa [follow, if_neg dot, if_neg dots]

theorem follow_concat (dot : name ≠ ".") (dots : name ≠ "..") (here : Location)
    (names : List String) : follow here (names ++ [name]) = follow here names ++ [name] := by
  induction names generalizing here with
  | nil => exact (if_neg dot).trans (if_neg dots)
  | cons first names ih =>
    rw [List.cons_append, follow, follow]
    split
    · exact ih _
    · split
      · exact ih _
      · exact ih _

theorem location_of_find (h : disk.find path = .ok (l, node)) : l = disk.location path :=
  (find_eq_ok_iff.1 h).2.1.eq_follow

theorem location_of_split (h : disk.split path = .ok (parent, some name)) :
    parent ++ [name] = disk.location path := by
  obtain ⟨_, leads, _, named⟩ := split_eq_ok_iff.1 h
  obtain ⟨last, dot, dots, _⟩ := lastName_eq_some named
  obtain ⟨front, names⟩ := List.getLast?_eq_some_iff.1 last
  rw [names, List.dropLast_concat] at leads
  rw [location, names, follow_concat dot dots, leads.eq_follow]

theorem Opens.eq_location (h : disk.Opens path l) : l = disk.location path := by
  obtain ⟨parent, name, split, rfl, _⟩ := h
  exact location_of_split split

/-- A path with an ending leads to a name with that ending. -/
theorem location_append (disk : Disk) {ending : String} (h : Path.IsEnding ending)
    (front : String) :
    ∃ parent stem, disk.location (front ++ ending) = parent ++ [stem ++ ending] := by
  obtain ⟨names, stem, same, dot, dots⟩ := Path.namesOf_append h front
  exact ⟨_, stem, by rw [location, same, follow_concat dot dots]⟩

theorem Keeps.location_eq (keeps : Keeps touched disk after) (path : String) :
    after.location path = disk.location path := by
  rw [location, location, keeps.start_eq]

/-- A file that is not among those touched holds what it held before. -/
theorem Keeps.read_elsewhere (keeps : Keeps touched disk after) {bytes : List UInt8}
    (h : disk.read path = .ok bytes) (free : disk.location path ∉ touched) :
    after.read path = .ok bytes := by
  obtain ⟨l, found⟩ := read_eq_ok_iff.1 h
  obtain rfl := location_of_find found
  have there := keeps.kept (find_eq_ok_iff.1 found).2.2.1 (.inl free)
  exact read_eq_ok_iff.2 ⟨_, keeps.find found there⟩

/-- A file that no path among those touched leads to holds what it held before. -/
theorem Keeps.read_apart {paths : List String}
    (keeps : Keeps (paths.map disk.location) disk after) {bytes : List UInt8}
    (apart : ∀ q ∈ paths, disk.location q ≠ disk.location path)
    (h : disk.read path = .ok bytes) : after.read path = .ok bytes := by
  refine keeps.read_elsewhere h fun mem => ?_
  obtain ⟨q, hq, same⟩ := List.mem_map.1 mem
  exact apart q hq same

/-! ## Single changes -/

theorem keeps_create (h : disk.create path = .ok after) :
    Keeps [disk.location path] disk after := by
  obtain ⟨l, opens, rfl⟩ := create_eq_ok h
  rw [← opens.eq_location]
  exact keeps_put opens _

theorem keeps_write {bytes : List UInt8} (h : disk.write path bytes = .ok after) :
    Keeps [disk.location path] disk after := by
  obtain ⟨l, opens, rfl⟩ := write_eq_ok h
  rw [← opens.eq_location]
  exact keeps_put opens _

theorem keeps_remove (h : disk.remove path = .ok after) :
    Keeps [disk.location path] disk after := by
  obtain ⟨l, bytes, opens, _, rfl⟩ := remove_eq_ok h
  rw [← opens.eq_location]
  exact keeps_clear opens

theorem keeps_rename {source target : String} (h : disk.rename source target = .ok after) :
    Keeps [disk.location source, disk.location target] disk after := by
  obtain ⟨old, new, bytes, prepared, holds, opens, rfl⟩ := rename_eq_ok h
  have cleared := keeps_clear prepared
  have to_new : (disk.clear old).Opens target new := by
    refine opens.keeps cleared ?_
    rw [at?_clear disk prepared.ne_nil]
    split
    · simp
    · obtain ⟨_, _, _, _, _, file⟩ := opens
      exact file
  rw [← prepared.eq_location, ← opens.eq_location]
  exact cleared.append (keeps_put to_new _)

theorem keeps_spoils (h : disk.Spoils path after) : Keeps [disk.location path] disk after := by
  obtain rfl | ⟨l, left, opens, rfl⟩ := h
  · exact .refl _ _
  · rw [← opens.eq_location]
    exact keeps_put opens _

end WidgetBindings.Disk
