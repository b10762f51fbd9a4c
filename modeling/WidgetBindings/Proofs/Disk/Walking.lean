import WidgetBindings.Disk.Basic
import WidgetBindings.Proofs.Outcome

/-!
# Paths lead to the same places

* `place`: where a path without double dots leads, whatever is on the disk;
* `Keeps`: all that was on a disk is on another one as well, but for files at some locations;
* `Keeps.find`, `Keeps.split`: a path that could be walked leads to the same place when all
  directories are kept.
-/

namespace WidgetBindings.Disk

variable {disk after : Disk} {path : String} {touched : List Location} {node : Node}
  {location here : Location}

/-! ## Single locations -/

theorem at?_nil (disk : Disk) : disk.at? [] = some .directory := if_pos rfl

theorem at?_put (disk : Disk) (h : location ≠ []) (node : Node) (l : Location) :
    (disk.put location node).at? l = if l = location then some node else disk.at? l := by
  by_cases root : l = []
  · rw [root, at?_nil, at?_nil, if_neg (Ne.symm h)]
  · rw [at?, at?, if_neg root, if_neg root, put, Std.ExtTreeMap.getElem?_insert]
    by_cases same : l = location
    · simp [same]
    · simp [same, Ne.symm same]

theorem at?_clear (disk : Disk) (h : location ≠ []) (l : Location) :
    (disk.clear location).at? l = if l = location then none else disk.at? l := by
  by_cases root : l = []
  · rw [root, at?_nil, at?_nil, if_neg (Ne.symm h)]
  · rw [at?, at?, if_neg root, if_neg root, clear, Std.ExtTreeMap.getElem?_erase]
    by_cases same : l = location
    · simp [same]
    · simp [same, Ne.symm same]

/-! ## Walking -/

/-- Names lead from one location to another, step by step. -/
inductive Leads (disk : Disk) : Location → List String → Location → Prop
  | done (here : Location) : Leads disk here [] here
  | stay {here location : Location} {names : List String} :
      disk.at? here = some .directory → Leads disk here names location →
      Leads disk here ("." :: names) location
  | up {here location : Location} {names : List String} :
      disk.at? here = some .directory → Leads disk here.dropLast names location →
      Leads disk here (".." :: names) location
  | down {here location : Location} {name : String} {names : List String} :
      disk.at? here = some .directory → name ≠ "." → name ≠ ".." →
      name.utf8ByteSize ≤ longestName → (disk.at? (here ++ [name])).isSome →
      Leads disk (here ++ [name]) names location → Leads disk here (name :: names) location

theorem walk_eq_ok_iff {names : List String} :
    disk.walk here names = .ok location ↔ disk.Leads here names location := by
  constructor
  · intro h
    induction names generalizing here with
    | nil =>
      cases h
      exact .done _
    | cons name names ih =>
      rw [walk] at h
      split at h
      · rename_i found
        split at h
        · rename_i dot
          exact dot ▸ .stay found (ih h)
        · split at h
          · rename_i dots
            exact dots ▸ .up found (ih h)
          · split at h
            · cases h
            · split at h
              · cases h
              · rename_i dot dots short there
                have there : (disk.at? (here ++ [name])).isSome :=
                  Option.isNone_eq_false_iff.1 (Bool.eq_false_iff.2 there)
                exact .down found dot dots (Nat.not_lt.1 short) there (ih h)
      · cases h
  · intro h
    induction h with
    | done => rfl
    | stay found _ ih => rw [walk, found]; exact ih
    | up found _ ih => rw [walk, found]; exact ih
    | down found dot dots short there _ ih =>
      rw [walk, found]
      simp only [if_neg dot, if_neg dots, if_neg (Nat.not_lt.2 short),
        Option.isNone_eq_false_iff.2 there, Bool.false_eq_true, if_false]
      exact ih

/-- All names but the last are those of directories. -/
theorem Leads.directory {names : List String} (more : names ≠ [])
    (h : disk.Leads here names location) : disk.at? here = some .directory := by
  cases h with
  | done => exact absurd rfl more
  | stay found _ => exact found
  | up found _ => exact found
  | down found => exact found

theorem Leads.append {names more : List String} {between : Location}
    (h : disk.Leads here names between) (g : disk.Leads between more location) :
    disk.Leads here (names ++ more) location := by
  induction h with
  | done => exact g
  | stay found _ ih => exact .stay found (ih g)
  | up found _ ih => exact .up found (ih g)
  | down found dot dots short there _ ih => exact .down found dot dots short there (ih g)

theorem Leads.split {names more : List String} (h : disk.Leads here (names ++ more) location) :
    ∃ between, disk.Leads here names between ∧ disk.Leads between more location := by
  induction names generalizing here with
  | nil => exact ⟨here, .done here, h⟩
  | cons name names ih =>
    cases h with
    | stay found h =>
      obtain ⟨between, first, second⟩ := ih h
      exact ⟨between, .stay found first, second⟩
    | up found h =>
      obtain ⟨between, first, second⟩ := ih h
      exact ⟨between, .up found first, second⟩
    | down found dot dots short there h =>
      obtain ⟨between, first, second⟩ := ih h
      exact ⟨between, .down found dot dots short there first, second⟩

/-- Without double dots every name but a dot leads one step down. -/
theorem Leads.eq {names : List String} (plain : ".." ∉ names)
    (h : disk.Leads here names location) : location = here ++ names.filter (· ≠ ".") := by
  induction h with
  | done => rw [List.filter_nil, List.append_nil]
  | stay _ _ ih => exact ih (List.not_mem_of_not_mem_cons plain)
  | up => exact absurd (List.mem_cons_self ..) plain
  | down _ dot _ _ _ _ ih =>
    rw [ih (List.not_mem_of_not_mem_cons plain), List.filter_cons_of_pos (by simp [dot]),
      List.append_assoc, List.singleton_append]

/-! ## What is kept -/

/-- All that is on one disk is on the other one as well, but for files at some locations. -/
structure Keeps (touched : List Location) (disk after : Disk) : Prop where
  current : after.current = disk.current
  kept : ∀ {location : Location} {node : Node}, disk.at? location = some node →
    location ∉ touched ∨ node = .directory → after.at? location = some node

theorem Keeps.refl (touched : List Location) (disk : Disk) : Keeps touched disk disk :=
  ⟨rfl, fun h _ => h⟩

theorem Keeps.trans {later : Disk} (h : Keeps touched disk after) (g : Keeps touched after later) :
    Keeps touched disk later :=
  ⟨g.current.trans h.current, fun found free => g.kept (h.kept found free) free⟩

theorem Keeps.mono {more : List Location} (h : Keeps touched disk after)
    (sub : ∀ l ∈ touched, l ∈ more) : Keeps more disk after :=
  ⟨h.current, fun found free => h.kept found (free.imp_left fun out mem => out (sub _ mem))⟩

theorem Keeps.append {more : List Location} {later : Disk} (h : Keeps touched disk after)
    (g : Keeps more after later) : Keeps (touched ++ more) disk later :=
  (h.mono fun _ => List.mem_append_left _).trans (g.mono fun _ => List.mem_append_right _)

theorem Leads.kept {names : List String} (keeps : Keeps touched disk after)
    (there : (after.at? location).isSome) (h : disk.Leads here names location) :
    after.Leads here names location := by
  induction h with
  | done here => exact .done here
  | stay found _ ih => exact .stay (keeps.kept found (.inr rfl)) (ih there)
  | up found _ ih => exact .up (keeps.kept found (.inr rfl)) (ih there)
  | @down here location name names found dot dots short _ rest ih =>
    have next : (after.at? (here ++ [name])).isSome := by
      cases names with
      | nil =>
        cases rest
        exact there
      | cons n ns =>
        rw [keeps.kept (rest.directory (List.cons_ne_nil n ns)) (.inr rfl)]
        rfl
    exact .down (keeps.kept found (.inr rfl)) dot dots short next (ih there)

/-! ## Whole paths -/

/-- Where a path without double dots leads, whatever is on the disk. -/
def place (disk : Disk) (path : String) : Location :=
  disk.start path ++ (namesOf path).filter (· ≠ ".")

theorem Keeps.start_eq (keeps : Keeps touched disk after) (path : String) :
    after.start path = disk.start path := by
  rw [start, start, keeps.current]

theorem Keeps.place_eq (keeps : Keeps touched disk after) (path : String) :
    after.place path = disk.place path := by
  rw [place, place, keeps.start_eq]

theorem find_eq_ok_iff : disk.find path = .ok (location, node) ↔
    checkPath path = .ok () ∧ disk.Leads (disk.start path) (namesOf path) location ∧
      disk.at? location = some node ∧ (endsInSlash path → node = .directory) := by
  simp only [← walk_eq_ok_iff, find, bind_eq_ok_iff]
  constructor
  · rintro ⟨⟨⟩, checked, l, leads, h⟩
    cases found : disk.at? l with
    | none => simp [found] at h
    | some n =>
      cases n with
      | directory =>
        rw [found] at h
        cases h
        exact ⟨checked, leads, found, fun _ => rfl⟩
      | file bytes =>
        simp only [found] at h
        split at h
        · cases h
        · rename_i slash
          cases h
          exact ⟨checked, leads, found, fun ends => absurd ends slash⟩
  · rintro ⟨checked, leads, found, slash⟩
    refine ⟨(), checked, location, leads, ?_⟩
    simp only [found]
    cases node with
    | directory => rfl
    | file bytes => exact if_neg fun ends => by cases slash ends

/-- The last name of a path, if it is one that something may have. -/
def lastName (path : String) : Except Failure (Option String) :=
  match (namesOf path).getLast? with
  | none => .ok none
  | some name =>
    if name = "." ∨ name = ".." then .ok none
    else if longestName < name.utf8ByteSize then .error .nameTooLong
    else .ok (some name)

theorem split_eq_ok_iff {parent : Location} {name : Option String} :
    disk.split path = .ok (parent, name) ↔
      checkPath path = .ok () ∧ disk.Leads (disk.start path) (namesOf path).dropLast parent ∧
        disk.at? parent = some .directory ∧ lastName path = .ok name := by
  have last (parent' : Location) : (match (namesOf path).getLast? with
      | none => .ok (parent', none)
      | some name =>
        if name = "." ∨ name = ".." then .ok (parent', none)
        else if longestName < name.utf8ByteSize then .error .nameTooLong
        else .ok (parent', some name) : Except Failure (Location × Option String)) =
        .ok (parent, name) ↔ parent' = parent ∧ lastName path = .ok name := by
    rw [lastName]
    cases (namesOf path).getLast? with
    | none => simp
    | some n =>
      by_cases dots : n = "." ∨ n = ".."
      · simp [dots]
      · by_cases long : longestName < n.utf8ByteSize
        · simp [dots, long]
        · simp [dots, long]
  simp only [← walk_eq_ok_iff, split, bind_eq_ok_iff]
  constructor
  · rintro ⟨⟨⟩, checked, parent', leads, h⟩
    split at h
    · cases h
    · rename_i found
      obtain ⟨rfl, named⟩ := (last parent').1 h
      exact ⟨checked, leads, Decidable.not_not.1 found, named⟩
  · rintro ⟨checked, leads, found, named⟩
    refine ⟨(), checked, parent, leads, ?_⟩
    rw [if_neg (Decidable.not_not.2 found)]
    exact (last parent).2 ⟨rfl, named⟩

theorem Keeps.find (keeps : Keeps touched disk after) (h : disk.find path = .ok (location, node))
    (found : after.at? location = some node) : after.find path = .ok (location, node) := by
  obtain ⟨checked, leads, _, slash⟩ := find_eq_ok_iff.1 h
  rw [← keeps.start_eq] at leads
  exact find_eq_ok_iff.2 ⟨checked, leads.kept keeps (by rw [found]; rfl), found, slash⟩

theorem Keeps.split (keeps : Keeps touched disk after) {parent : Location} {name : Option String}
    (h : disk.split path = .ok (parent, name)) : after.split path = .ok (parent, name) := by
  obtain ⟨checked, leads, found, named⟩ := split_eq_ok_iff.1 h
  have found := keeps.kept found (.inr rfl)
  rw [← keeps.start_eq] at leads
  exact split_eq_ok_iff.2 ⟨checked, leads.kept keeps (by rw [found]; rfl), found, named⟩

theorem read_eq_ok_iff {bytes : List UInt8} :
    disk.read path = .ok bytes ↔ ∃ location, disk.find path = .ok (location, .file bytes) := by
  rw [read, bind_eq_ok_iff]
  constructor
  · rintro ⟨⟨location, node⟩, found, h⟩
    cases node with
    | directory => cases h
    | file held =>
      cases h
      exact ⟨location, found⟩
  · rintro ⟨location, found⟩
    exact ⟨_, found, rfl⟩

theorem place_of_find (plain : ".." ∉ namesOf path) (h : disk.find path = .ok (location, node)) :
    location = disk.place path :=
  (find_eq_ok_iff.1 h).2.1.eq plain

/-- A file that is not among those touched holds what it held before. -/
theorem Keeps.read (keeps : Keeps touched disk after) (plain : ".." ∉ namesOf path)
    {bytes : List UInt8} (h : disk.read path = .ok bytes) (free : disk.place path ∉ touched) :
    after.read path = .ok bytes := by
  obtain ⟨location, found⟩ := read_eq_ok_iff.1 h
  obtain rfl := place_of_find plain found
  have there := keeps.kept (find_eq_ok_iff.1 found).2.2.1 (.inl free)
  exact read_eq_ok_iff.2 ⟨_, keeps.find found there⟩

theorem lastName_eq_some {name : String} (h : lastName path = .ok (some name)) :
    (namesOf path).getLast? = some name ∧ name ≠ "." ∧ name ≠ ".." ∧
      name.utf8ByteSize ≤ longestName := by
  rw [lastName] at h
  split at h
  · cases h
  · rename_i last
    split at h
    · cases h
    · rename_i dots
      split at h
      · cases h
      · rename_i short
        cases h
        have ⟨dot, up⟩ := not_or.1 dots
        exact ⟨last, dot, up, Nat.not_lt.1 short⟩

/-- What is below the directory that a path leads to is found by way of the path. -/
theorem leads_of_split {parent : Location} {name : String}
    (h : disk.split path = .ok (parent, some name)) (there : (disk.at? (parent ++ [name])).isSome) :
    checkPath path = .ok () ∧
      disk.Leads (disk.start path) (namesOf path) (parent ++ [name]) := by
  obtain ⟨checked, leads, directory, named⟩ := split_eq_ok_iff.1 h
  obtain ⟨last, dot, dots, short⟩ := lastName_eq_some named
  obtain ⟨front, names⟩ := List.getLast?_eq_some_iff.1 last
  rw [names, List.dropLast_concat] at leads
  rw [names]
  exact ⟨checked, leads.append (.down directory dot dots short there (.done _))⟩

/-- Where a path leads before its last name, and that name, are its place. -/
theorem place_of_split (plain : ".." ∉ namesOf path) {parent : Location} {name : String}
    (h : disk.split path = .ok (parent, some name)) : parent ++ [name] = disk.place path := by
  obtain ⟨_, leads, _, named⟩ := split_eq_ok_iff.1 h
  obtain ⟨last, dot, _⟩ := lastName_eq_some named
  obtain ⟨front, names⟩ := List.getLast?_eq_some_iff.1 last
  rw [names, List.dropLast_concat] at leads
  rw [names] at plain
  rw [place, names, List.filter_append, List.filter_cons_of_pos (by simp [dot]), List.filter_nil,
    ← List.append_assoc, leads.eq fun mem => plain (List.mem_append_left _ mem)]

end WidgetBindings.Disk
