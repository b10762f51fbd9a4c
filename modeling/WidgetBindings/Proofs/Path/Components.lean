import WidgetBindings.Proofs.Path.Endings

/-!
# Where the parts of a path lead

Slashes at the end of a path and single dots in it do not count, so where a path leads is known from
the names in it (`steps`).

* `place_parent?`: the path before the last component leads to a location on the way;
* `place_fileName?`: a path with a name leads one step further, to that name;
* `plain_join`, `plain_append`: a path goes up only if one of its parts does;
* `place_temporary`: the file in which another one is prepared lies beside it.
-/

namespace WidgetBindings.Path

open Disk (place start namesOf)

/-! ## The names in a text -/

/-- The names in a text that lead somewhere else. -/
def steps (cs : List Char) : List String :=
  (((Text.splitOn '/' cs).filter (!·.isEmpty)).map String.ofList).filter (· ≠ ".")

theorem place_eq (disk : Disk) (path : String) :
    disk.place path = disk.start path ++ steps path.toList := rfl

theorem dots_mem_namesOf {path : String} : ".." ∈ namesOf path ↔ ".." ∈ steps path.toList := by
  rw [steps, List.mem_filter]
  exact (and_iff_left (by decide)).symm

theorem steps_append_slash (cs more : List Char) :
    steps (cs ++ '/' :: more) = steps cs ++ steps more := by
  rw [steps, Text.splitOn_append_cons, List.filter_append, List.map_append, List.filter_append]
  rfl

/-- A slash at the end does not count. -/
theorem steps_concat_slash (cs : List Char) : steps (cs ++ ['/']) = steps cs := by
  rw [steps_append_slash]
  exact List.append_nil _

/-- A name leads one step further. -/
theorem steps_name {cs : List Char} (slash : '/' ∉ cs) (full : cs ≠ []) (dot : cs ≠ ['.']) :
    steps cs = [String.ofList cs] := by
  have named : String.ofList cs ≠ "." := fun same =>
    dot (by simpa using congrArg String.toList same)
  rw [steps, Text.splitOn_of_not_mem slash]
  simp [full, named]

theorem takeWhile_slash (cs : List Char) : '/' ∉ cs.takeWhile (· ≠ '/') := fun mem => by
  simpa using List.all_eq_true.1 List.all_takeWhile _ mem

/-- What is left of a text from its first slash on. -/
theorem dropWhile_slash (cs : List Char) :
    cs.dropWhile (· ≠ '/') = [] ∨ ∃ more, cs.dropWhile (· ≠ '/') = '/' :: more := by
  have cut := List.head?_dropWhile_not (· ≠ '/') cs
  cases rest : cs.dropWhile (· ≠ '/') with
  | nil => exact .inl rfl
  | cons c more =>
    rw [rest] at cut
    obtain rfl : c = '/' := by simpa using cut
    exact .inr ⟨more, rfl⟩

/-- The names in a text are those before a slash and those after it. Texts are given last character
first. -/
theorem steps_append {rest : List Char} (cut : rest = [] ∨ ∃ more, rest = '/' :: more)
    (last : List Char) :
    steps (last ++ rest).reverse = steps rest.reverse ++ steps last.reverse := by
  rw [List.reverse_append]
  obtain rfl | ⟨more, rfl⟩ := cut
  · rfl
  · rw [List.reverse_cons, steps_concat_slash, List.append_assoc, List.singleton_append,
      steps_append_slash]

theorem steps_cut (cs : List Char) : steps cs.reverse =
    steps (cs.dropWhile (· ≠ '/')).reverse ++ steps (cs.takeWhile (· ≠ '/')).reverse := by
  rw [← steps_append (dropWhile_slash cs), List.takeWhile_append_dropWhile]

/-! ## The last component -/

theorem steps_trimEnd (cs : List Char) : steps (trimEnd cs).reverse = steps cs.reverse := by
  induction cs using trimEnd.induct with
  | case1 c rest ih =>
    rw [trimEnd, ih, @List.reverse_cons _ '/', steps_concat_slash]
  | case2 rest ih =>
    have dotted : ('.' :: '/' :: rest).reverse = rest.reverse ++ '/' :: ['.'] := by simp
    rw [trimEnd, ih, List.reverse_cons, dotted, steps_append_slash, steps_append_slash]
    rfl
  | case3 cs no_slash no_dot => rw [trimEnd.eq_3 cs no_slash no_dot]

theorem getLast?_trimEnd (cs : List Char) : (trimEnd cs).getLast? = cs.getLast? := by
  induction cs using trimEnd.induct with
  | case1 c rest ih => rw [trimEnd, ih, List.getLast?_cons_cons]
  | case2 rest ih => rw [trimEnd, ih, List.getLast?_cons_cons]
  | case3 cs no_slash no_dot => rw [trimEnd.eq_3 cs no_slash no_dot]

/-- After trimming neither a slash nor a single dot is left at the end. -/
theorem trimEnd_ne (cs : List Char) (c : Char) (rest : List Char) :
    trimEnd cs ≠ '/' :: c :: rest ∧ trimEnd cs ≠ '.' :: '/' :: rest := by
  induction cs using trimEnd.induct with
  | case1 d more ih => rwa [trimEnd]
  | case2 more ih => rwa [trimEnd]
  | case3 cs no_slash no_dot =>
    rw [trimEnd.eq_3 cs no_slash no_dot]
    exact ⟨no_slash c rest, no_dot rest⟩

variable {path parent name : String} {last before : List Char}

/-- The last component is what stands after the last slash once the end of the path is trimmed. -/
theorem splitLast?_cut (h : splitLast? path = some (last, before)) :
    ∃ rest, trimEnd path.toList.reverse = last ++ rest ∧ before = trimEnd rest ∧
      (rest = [] ∨ ∃ more, rest = '/' :: more) ∧ '/' ∉ last ∧ last ≠ [] := by
  obtain ⟨trimmed, same, full, root, rfl, rfl⟩ : ∃ cs, trimEnd path.toList.reverse = cs ∧
      cs ≠ [] ∧ cs ≠ ['/'] ∧ last = cs.takeWhile (· ≠ '/') ∧
        before = trimEnd (cs.dropWhile (· ≠ '/')) := by
    rw [splitLast?] at h
    split at h
    · cases h
    · cases h
    · rename_i empty root
      cases h
      exact ⟨_, rfl, empty, root, rfl, rfl⟩
  have parts := List.takeWhile_append_dropWhile (p := (· ≠ '/')) (l := trimmed)
  refine ⟨trimmed.dropWhile (· ≠ '/'), same.trans parts.symm, rfl, dropWhile_slash trimmed,
    takeWhile_slash trimmed, fun none => ?_⟩
  -- the path would end in a slash, and that is trimmed unless it is all there is
  rw [none, List.nil_append] at parts
  obtain gone | ⟨more, rest⟩ := dropWhile_slash trimmed
  · exact full (parts.symm.trans gone)
  · cases more with
    | nil => exact root (parts.symm.trans rest)
    | cons c more => exact (trimEnd_ne _ c more).1 (same.trans (parts.symm.trans rest))

/-- The last component is not empty and holds no slash. What is before it starts where the path
starts, and has the rest of the names. -/
theorem splitLast?_spec (h : splitLast? path = some (last, before)) :
    '/' ∉ last ∧ last ≠ [] ∧
      (before.getLast? = some '/' ↔ path.toList.head? = some '/') ∧
      steps path.toList = steps before.reverse ++ steps last.reverse := by
  obtain ⟨rest, trimmed, rfl, cut, slash, full⟩ := splitLast?_cut h
  have first : (last ++ rest).getLast? = path.toList.head? := by
    rw [← trimmed, getLast?_trimEnd, List.getLast?_reverse]
  refine ⟨slash, full, ?_, ?_⟩
  · rw [getLast?_trimEnd, ← first]
    obtain rfl | ⟨more, rfl⟩ := cut
    · rw [List.append_nil]
      exact iff_of_false (by simp) fun root => slash (List.mem_of_getLast? root)
    · rw [List.getLast?_append, List.getLast?_cons]
      rfl
  · rw [steps_trimEnd, ← steps_append cut, ← trimmed, steps_trimEnd, List.reverse_reverse]

/-- A name is the last component of a path, unless that is a dot or two. -/
theorem fileName?_cut (h : fileName? path = some name) :
    ∃ last before, splitLast? path = some (last, before) ∧ name = String.ofList last.reverse ∧
      last ≠ ['.'] ∧ last ≠ ['.', '.'] := by
  rw [fileName?] at h
  split at h
  · cases h
  · rename_i last before cut
    split at h
    · cases h
    · rename_i dots
      cases h
      exact ⟨last, before, cut, rfl, not_or.1 dots⟩

/-! ## Where they lead -/

variable (disk : Disk)

/-- A path without a slash at its front starts where relative paths start. -/
theorem start_congr {other : String}
    (same : path.toList.head? = some '/' ↔ other.toList.head? = some '/') :
    disk.start path = disk.start other := by
  rw [start, start]
  simp only [same]

/-- The path before the last component leads to a location on the way. -/
theorem place_parent? (h : parent? path = some parent) :
    disk.place parent <+: disk.place path ∧ (".." ∉ namesOf path → ".." ∉ namesOf parent) := by
  obtain ⟨⟨last, before⟩, cut, rfl⟩ := Option.map_eq_some_iff.1 h
  obtain ⟨_, _, first, names⟩ := splitLast?_spec cut
  have same : disk.start (String.ofList before.reverse) = disk.start path :=
    start_congr disk (by simpa using first)
  refine ⟨⟨steps last.reverse, ?_⟩, fun plain mem => plain ?_⟩
  · rw [place_eq, place_eq, same, names, List.append_assoc, String.toList_ofList]
  · rw [dots_mem_namesOf, names]
    exact List.mem_append_left _ (by simpa using dots_mem_namesOf.1 mem)

/-- A path with a name leads one step further than the path before it. -/
theorem place_fileName? (h : fileName? path = some name) :
    ∃ parent, parent? path = some parent ∧ disk.place path = disk.place parent ++ [name] ∧
      '/' ∉ name.toList := by
  obtain ⟨last, before, cut, rfl, dot, _⟩ := fileName?_cut h
  obtain ⟨slash, full, first, names⟩ := splitLast?_spec cut
  have same : disk.start (String.ofList before.reverse) = disk.start path :=
    start_congr disk (by simpa using first)
  have single := @steps_name last.reverse (by simpa using slash) (by simpa using full)
    (by simpa using dot)
  refine ⟨String.ofList before.reverse, by rw [parent?, cut]; rfl, ?_, by simpa using slash⟩
  rw [place_eq, place_eq, same, names, single, List.append_assoc, String.toList_ofList]

/-- What is added to a path that is not empty does not change where it starts. -/
theorem start_append (full : path ≠ "") (more : String) :
    disk.start (path ++ more) = disk.start path := by
  obtain ⟨c, cs, same⟩ := List.exists_cons_of_ne_nil (mt String.toList_eq_nil_iff.1 full)
  refine start_congr disk ?_
  rw [String.toList_append, same]
  exact Iff.rfl

/-- A relative path below a directory has the names of the directory before its own. -/
theorem steps_join {directory : String} (relative : path.toList.head? ≠ some '/') :
    steps (join directory path).toList = steps directory.toList ++ steps path.toList := by
  unfold join
  split
  · rename_i empty
    rw [empty.resolve_left relative]
    rfl
  · split
    · rename_i ends
      obtain ⟨front, ends⟩ := List.getLast?_eq_some_iff.1 ends
      rw [String.toList_append, ends, steps_concat_slash, List.append_assoc,
        List.singleton_append, steps_append_slash]
    · rw [String.toList_append, String.toList_append, List.append_assoc]
      exact steps_append_slash _ _

theorem start_join {directory : String} (relative : path.toList.head? ≠ some '/') :
    disk.start (join directory path) = disk.start directory := by
  unfold join
  split
  · rename_i empty
    rw [empty.resolve_left relative]
    exact @start_congr path disk "" (iff_of_false relative (by simp))
  · rename_i full
    obtain ⟨_, full⟩ := not_or.1 full
    split
    · exact start_append disk full path
    · rw [String.append_assoc]
      exact start_append disk full _

/-- A path below a directory goes up only if one of them does. -/
theorem plain_join {directory : String} (plain : ".." ∉ namesOf directory)
    (plain_path : ".." ∉ namesOf path) : ".." ∉ namesOf (join directory path) := by
  by_cases root : path.toList.head? = some '/'
  · rwa [join, if_pos (.inl root)]
  · rw [dots_mem_namesOf, steps_join root, List.mem_append, ← dots_mem_namesOf, ← dots_mem_namesOf]
    exact not_or.2 ⟨plain, plain_path⟩

/-! ## Endings -/

variable {ending : String}

/-- What has an ending is one name, if there is no slash before the ending. -/
theorem steps_ending (h : IsEnding ending) {front : List Char} (slash : '/' ∉ front) :
    steps (front ++ ending.toList) = [String.ofList (front ++ ending.toList)] ∧
      ".." ∉ steps (front ++ ending.toList) := by
  obtain ⟨dot, dots⟩ := h.ne_dots front
  have single : steps (front ++ ending.toList) = [String.ofList (front ++ ending.toList)] :=
    steps_name (by rw [List.mem_append]; exact not_or.2 ⟨slash, h.slash⟩)
      (fun none => h.ne_nil (List.append_eq_nil_iff.1 none).2) dot
  refine ⟨single, fun mem => dots ?_⟩
  rw [single, List.mem_singleton] at mem
  exact String.toList_ofList.symm.trans (congrArg String.toList mem.symm)

/-- A path with an ending goes up only if the path does. -/
theorem plain_append (h : IsEnding ending) (plain : ".." ∉ namesOf path) :
    ".." ∉ namesOf (path ++ ending) := by
  have whole : (path ++ ending).toList =
      (ending.toList.reverse ++ path.toList.reverse).reverse := by
    simp
  have name := ne_slash (mt List.mem_reverse.1 h.slash)
  have slash := mt List.mem_reverse.1 (takeWhile_slash path.toList.reverse)
  rw [dots_mem_namesOf, ← List.reverse_reverse path.toList, steps_cut, List.mem_append,
    not_or] at plain
  rw [dots_mem_namesOf, whole, steps_cut, List.takeWhile_append_of_pos name,
    List.dropWhile_append_of_pos name, List.reverse_append, List.reverse_reverse, List.mem_append]
  exact not_or.2 ⟨plain.1, (steps_ending h slash).2⟩

/-- The file in which another one is prepared lies beside it. -/
theorem place_temporary (h : fileName? path = some name) :
    ∃ parent, parent? path = some parent ∧ disk.place path = disk.place parent ++ [name] ∧
      disk.place (temporary path) = disk.place parent ++ [name ++ ".tmp"] ∧
      (".." ∉ namesOf path → ".." ∉ namesOf (temporary path)) := by
  obtain ⟨parent, above, at_name, slash⟩ := place_fileName? disk h
  have prepared : temporary path = join parent (name ++ ".tmp") := by
    rw [temporary, withFileName, h, above]
    rfl
  obtain ⟨single, plain_single⟩ := steps_ending isEnding_tmp slash
  rw [← String.toList_append] at single plain_single
  rw [String.ofList_toList] at single
  have relative : (name ++ ".tmp").toList.head? ≠ some '/' := fun root => by
    simpa [slash] using List.mem_of_head? root
  refine ⟨parent, above, at_name, ?_, fun plain => ?_⟩
  · rw [prepared, place_eq, start_join disk relative, steps_join relative, single, place_eq,
      List.append_assoc]
  · rw [prepared]
    exact plain_join ((place_parent? disk above).2 plain) (mt dots_mem_namesOf.1 plain_single)

end WidgetBindings.Path
