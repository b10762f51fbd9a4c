import WidgetBindings.Proofs.Disk.Walking

/-!
# Single changes of a disk

What the requests that change a disk do, each when it succeeds (`makeDirectory_eq_ok`,
`create_eq_ok`, `write_eq_ok`, `rename_eq_ok`, `remove_eq_ok`):

* `keeps_makeDirectory`: a directory that has been made is there, with all that was there before;
* `keeps_put`, `keeps_clear`: a file that is written or taken away leaves all else in place;
* `openFile_of_opens`, `rename_of_opens`: where a path leads to a file of its own (`Opens`), it can
  be written and moved;
* `put_clear_eq_self`: to move a file to where it was before gives the same disk again.
-/

namespace WidgetBindings

namespace Disk

variable {disk after : Disk} {path : String} {touched : List Location}

/-! ## Directories -/

theorem isDirectory_iff :
    disk.isDirectory path = true ↔ ∃ location, disk.find path = .ok (location, .directory) := by
  rw [isDirectory]
  constructor
  · intro h
    split at h
    · exact ⟨_, ‹_›⟩
    · cases h
  · rintro ⟨location, found⟩
    rw [found]

theorem Keeps.isDirectory (keeps : Keeps touched disk after) (h : disk.isDirectory path) :
    after.isDirectory path := by
  obtain ⟨location, found⟩ := isDirectory_iff.1 h
  have there := keeps.kept (find_eq_ok_iff.1 found).2.2.1 (.inr rfl)
  exact isDirectory_iff.2 ⟨location, keeps.find found there⟩

theorem split_of_isDirectory (h : disk.isDirectory path) :
    ∃ parent name, disk.split path = .ok (parent, name) ∧
      ∀ last, name = some last → (disk.at? (parent ++ [last])).isSome := by
  obtain ⟨location, found⟩ := isDirectory_iff.1 h
  obtain ⟨checked, leads, there, _⟩ := find_eq_ok_iff.1 found
  cases last : (namesOf path).getLast? with
  | none =>
    have none := List.getLast?_eq_none_iff.1 last
    rw [none] at leads
    cases leads
    refine ⟨disk.start path, Option.none, split_eq_ok_iff.2 ⟨checked, ?_, there, ?_⟩, fun _ h => ?_⟩
    · rw [none]
      exact .done _
    · rw [lastName, last]
    · cases h
  | some name =>
    obtain ⟨front, names⟩ := List.getLast?_eq_some_iff.1 last
    rw [names] at leads
    obtain ⟨parent, leads, step⟩ := leads.split
    have directory := step.directory (List.cons_ne_nil _ _)
    have way : disk.Leads (disk.start path) (namesOf path).dropLast parent := by
      rwa [names, List.dropLast_concat]
    by_cases dots : name = "." ∨ name = ".."
    · refine ⟨parent, none, split_eq_ok_iff.2 ⟨checked, way, directory, ?_⟩, fun _ h => ?_⟩
      · rw [lastName, last]
        exact if_pos dots
      · cases h
    · obtain ⟨dot, up⟩ := not_or.1 dots
      cases step with
      | stay => exact absurd rfl dot
      | up => exact absurd rfl up
      | down _ _ _ short there _ =>
        refine ⟨parent, some name, split_eq_ok_iff.2 ⟨checked, way, directory, ?_⟩, ?_⟩
        · rw [lastName, last]
          exact (if_neg dots).trans (if_neg (Nat.not_lt.2 short))
        · rintro _ ⟨⟩
          exact there

/-- Where there is a directory none can be made. -/
theorem makeDirectory_of_isDirectory (h : disk.isDirectory path) :
    disk.makeDirectory path = .error .alreadyExists := by
  obtain ⟨parent, name, split, there⟩ := split_of_isDirectory h
  rw [makeDirectory, split]
  cases name with
  | none => rfl
  | some name => exact if_pos (there name rfl)

theorem makeDirectory_eq_ok (h : disk.makeDirectory path = .ok after) :
    ∃ parent name, disk.split path = .ok (parent, some name) ∧
      disk.at? (parent ++ [name]) = none ∧ after = disk.put (parent ++ [name]) .directory := by
  obtain ⟨⟨parent, name⟩, split, h⟩ := bind_eq_ok_iff.1 h
  cases name with
  | none => cases h
  | some name =>
    change (if _ then _ else _) = _ at h
    split at h
    · cases h
    · rename_i free
      cases h
      exact ⟨parent, name, split, Option.not_isSome_iff_eq_none.1 free, rfl⟩

/-- A directory that has been made is there, and so is all that was there before. -/
theorem keeps_makeDirectory (h : disk.makeDirectory path = .ok after) :
    Keeps [] disk after ∧ after.isDirectory path := by
  obtain ⟨parent, name, split, free, rfl⟩ := makeDirectory_eq_ok h
  have new : parent ++ [name] ≠ [] := by simp
  have keeps : Keeps [] disk (disk.put (parent ++ [name]) .directory) := by
    refine ⟨rfl, fun {l node} found _ => ?_⟩
    rw [at?_put disk new, if_neg, found]
    rintro rfl
    cases free.symm.trans found
  have there : (disk.put (parent ++ [name]) .directory).at? (parent ++ [name]) =
      some .directory := by
    rw [at?_put disk new, if_pos rfl]
  obtain ⟨checked, leads⟩ := leads_of_split (keeps.split split) (by rw [there]; rfl)
  have found := find_eq_ok_iff.2 ⟨checked, leads, there, fun _ => rfl⟩
  exact ⟨keeps, isDirectory_iff.2 ⟨_, found⟩⟩

/-! ## Opening a file for writing -/

/-- A file can be made or written at a location by way of a path. -/
def Opens (disk : Disk) (path : String) (location : Location) : Prop :=
  ∃ parent name, disk.split path = .ok (parent, some name) ∧ location = parent ++ [name] ∧
    endsInSlash path = false ∧ disk.at? location ≠ some .directory

/-- The bytes of the file at a location, none if there is no file. -/
def held (disk : Disk) (location : Location) : List UInt8 :=
  match disk.at? location with
  | some (.file bytes) => bytes
  | some .directory | none => []

variable {location : Location}

theorem Opens.ne_nil (h : disk.Opens path location) : location ≠ [] := by
  obtain ⟨parent, name, _, rfl, _⟩ := h
  simp

theorem Opens.eq_place (h : disk.Opens path location) (plain : ".." ∉ namesOf path) :
    location = disk.place path := by
  obtain ⟨parent, name, split, rfl, _⟩ := h
  exact place_of_split plain split

theorem Opens.keeps (keeps : Keeps touched disk after) (h : disk.Opens path location)
    (free : after.at? location ≠ some .directory) : after.Opens path location := by
  obtain ⟨parent, name, split, same, slash, _⟩ := h
  exact ⟨parent, name, keeps.split split, same, slash, free⟩

theorem openFile_of_opens (h : disk.Opens path location) :
    disk.openFile path = .ok (location, disk.held location) := by
  obtain ⟨parent, name, split, rfl, slash, free⟩ := h
  rw [openFile, split]
  change (if _ then _ else _) = _
  rw [if_neg (by rw [slash]; decide), held]
  cases found : disk.at? (parent ++ [name]) with
  | none => rfl
  | some node =>
    cases node with
    | directory => exact absurd found free
    | file bytes => rfl

theorem opens_of_openFile {bytes : List UInt8} (h : disk.openFile path = .ok (location, bytes)) :
    disk.Opens path location := by
  obtain ⟨⟨parent, name⟩, split, h⟩ := bind_eq_ok_iff.1 h
  cases name with
  | none => cases h
  | some name =>
    change (if _ then _ else _) = _ at h
    split at h
    · cases h
    · rename_i slash
      split at h
      · cases h
      · rename_i found
        cases h
        exact ⟨parent, name, split, rfl, Bool.eq_false_iff.2 slash, by rw [found]; simp⟩
      · rename_i found
        cases h
        exact ⟨parent, name, split, rfl, Bool.eq_false_iff.2 slash, by rw [found]; simp⟩

theorem create_eq_ok (h : disk.create path = .ok after) :
    ∃ location, disk.Opens path location ∧ after = disk.put location (.file []) := by
  obtain ⟨⟨location, bytes⟩, opened, h⟩ := bind_eq_ok_iff.1 h
  cases h
  exact ⟨location, opens_of_openFile opened, rfl⟩

theorem write_eq_ok {bytes : List UInt8} (h : disk.write path bytes = .ok after) :
    ∃ location, disk.Opens path location ∧
      after = disk.put location (.file (disk.held location ++ bytes)) := by
  obtain ⟨⟨location, _⟩, opened, h⟩ := bind_eq_ok_iff.1 h
  have opens := opens_of_openFile opened
  cases (openFile_of_opens opens).symm.trans opened
  cases h
  exact ⟨location, opens, rfl⟩

theorem read_of_opens {bytes : List UInt8} (h : disk.Opens path location)
    (holds : disk.at? location = some (.file bytes)) : disk.read path = .ok bytes := by
  obtain ⟨parent, name, split, rfl, slash, _⟩ := h
  obtain ⟨checked, leads⟩ := leads_of_split split (by rw [holds]; rfl)
  have found := find_eq_ok_iff.2 ⟨checked, leads, holds, fun ends => by simp [slash] at ends⟩
  exact read_eq_ok_iff.2 ⟨_, found⟩

theorem keeps_put (h : disk.Opens path location) (node : Node) :
    Keeps [location] disk (disk.put location node) := by
  refine ⟨rfl, fun {l found} there free => ?_⟩
  rw [at?_put disk h.ne_nil, if_neg, there]
  rintro rfl
  obtain free | rfl := free
  · exact free (List.mem_singleton_self _)
  · obtain ⟨_, _, _, _, _, file⟩ := h
    exact file there

theorem Opens.put (h : disk.Opens path location) (bytes : List UInt8) :
    (disk.put location (.file bytes)).at? location = some (.file bytes) ∧
      (disk.put location (.file bytes)).Opens path location := by
  have there : (disk.put location (.file bytes)).at? location = some (.file bytes) := by
    rw [at?_put disk h.ne_nil, if_pos rfl]
  exact ⟨there, h.keeps (keeps_put h _) (by rw [there]; simp)⟩

theorem keeps_clear (h : disk.Opens path location) :
    Keeps [location] disk (disk.clear location) := by
  refine ⟨rfl, fun {l found} there free => ?_⟩
  rw [at?_clear disk h.ne_nil, if_neg, there]
  rintro rfl
  obtain free | rfl := free
  · exact free (List.mem_singleton_self _)
  · obtain ⟨_, _, _, _, _, file⟩ := h
    exact file there

/-! ## Disks that are the same -/

theorem ext_nodes {other : Disk} (current : disk.current = other.current)
    (nodes : ∀ l : Location, disk.nodes[l]? = other.nodes[l]?) : disk = other := by
  cases disk
  cases other
  cases current
  cases Std.ExtTreeMap.ext_getElem? nodes
  rfl

theorem put_put (disk : Disk) (location : Location) (a b : Node) :
    (disk.put location a).put location b = disk.put location b := by
  refine ext_nodes rfl fun l => ?_
  simp only [put, Std.ExtTreeMap.getElem?_insert]
  split <;> rfl

theorem clear_put (disk : Disk) (location : Location) (a : Node) :
    (disk.put location a).clear location = disk.clear location := by
  refine ext_nodes rfl fun l => ?_
  simp only [put, clear, Std.ExtTreeMap.getElem?_erase, Std.ExtTreeMap.getElem?_insert]
  split <;> rfl

/-- Moving a file to where it was put before, on a disk without it, changes nothing. -/
theorem put_clear_eq_self {old new : Location} {node : Node} (opens : old ≠ [] ∧ new ≠ [])
    (free : disk.at? old = none) (holds : disk.at? new = some node) :
    (disk.clear old).put new node = disk := by
  rw [at?, if_neg opens.1] at free
  rw [at?, if_neg opens.2] at holds
  refine ext_nodes rfl fun l => ?_
  simp only [put, clear, Std.ExtTreeMap.getElem?_erase, Std.ExtTreeMap.getElem?_insert]
  split
  · rename_i same
    rw [← Std.LawfulEqCmp.eq_of_compare same, holds]
  · split
    · rename_i same
      rw [← Std.LawfulEqCmp.eq_of_compare same, free]
    · rfl

/-! ## Moving a file -/

theorem rename_of_opens {source target : String} {old new : Location} {bytes : List UInt8}
    (from_old : disk.Opens source old) (holds : disk.at? old = some (.file bytes))
    (to_new : disk.Opens target new) :
    disk.rename source target = .ok ((disk.clear old).put new (.file bytes)) := by
  obtain ⟨fromParent, fromName, fromSplit, rfl, fromSlash, _⟩ := from_old
  obtain ⟨toParent, toName, toSplit, rfl, toSlash, free⟩ := to_new
  have moving : disk.moving source target =
      .ok (fromParent ++ [fromName], toParent ++ [toName], bytes) := by
    simp only [moving, fromSplit, toSplit, bind, Except.bind, holds]
    rw [if_neg (by simp [fromSlash, toSlash]), if_neg free]
  rw [rename, moving]
  rfl

theorem rename_eq_ok {source target : String} (h : disk.rename source target = .ok after) :
    ∃ old new bytes, disk.Opens source old ∧ disk.at? old = some (.file bytes) ∧
      disk.Opens target new ∧ after = (disk.clear old).put new (.file bytes) := by
  obtain ⟨moved, moving, h⟩ := bind_eq_ok_iff.1 h
  obtain ⟨⟨fromParent, fromName⟩, fromSplit, moving⟩ := bind_eq_ok_iff.1 moving
  obtain ⟨⟨toParent, toName⟩, toSplit, moving⟩ := bind_eq_ok_iff.1 moving
  cases fromName with
  | none => cases moving
  | some fromName =>
    cases toName with
    | none => cases moving
    | some toName =>
      simp only at moving
      split at moving
      · cases moving
      · cases moving
      · rename_i bytes holds
        split at moving
        · cases moving
        · rename_i slash
          split at moving
          · cases moving
          · rename_i free
            cases moving
            cases h
            obtain ⟨fromSlash, toSlash⟩ := not_or.1 slash
            exact ⟨_, _, bytes, ⟨fromParent, fromName, fromSplit, rfl,
                Bool.eq_false_iff.2 fromSlash, by rw [holds]; simp⟩, holds,
              ⟨toParent, toName, toSplit, rfl, Bool.eq_false_iff.2 toSlash, free⟩, rfl⟩

/-! ## Removing a file -/

theorem remove_eq_ok (h : disk.remove path = .ok after) :
    ∃ location bytes, disk.Opens path location ∧ disk.at? location = some (.file bytes) ∧
      after = disk.clear location := by
  obtain ⟨location, removal, cleared⟩ := bind_eq_ok_iff.1 h
  obtain ⟨⟨parent, name⟩, split, found⟩ := bind_eq_ok_iff.1 removal
  cases name with
  | none => cases found
  | some name =>
    simp only at found
    split at found
    · cases found
    · cases found
    · rename_i bytes holds
      split at found
      · cases found
      · rename_i slash
        cases found
        cases cleared
        exact ⟨_, bytes, ⟨parent, name, split, rfl, Bool.eq_false_iff.2 slash,
          by rw [holds]; simp⟩, holds, rfl⟩

end Disk

end WidgetBindings
