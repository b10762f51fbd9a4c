import WidgetBindings.Proofs.Disk.Location
import WidgetBindings.Proofs.Path.Components

/-!
# The file beside a path

What a path says is a sequence of components. Neither repeated slashes nor single dots are among
them, but for a dot at the front of a relative path.

* `fileName?_eq_some_iff`, `fileName?_eq_none_iff`, `components_fileName?`: the last name of a path
  and the path before it, which are cut out of the text from its end, are those that the components
  tell;
* `location_eq_foldl`: the components alone decide where a path leads;
* `components_join_ending`: a name below a directory is one component more;
* `temporary_beside`: the file in which another one is prepared lies in the same directory under a
  name of its own.
-/

namespace WidgetBindings.Path

/-! ## Components -/

/-- What a path says at one point: where to start, or where to go from there. -/
inductive Component
  | root
  | current
  | up
  | name (name : String)
  deriving DecidableEq, Repr

/-- What a name in a path says. -/
def Component.ofName (name : String) : Component := if name = ".." then .up else .name name

/-- What the front of a path says. Only here a single dot counts. -/
def lead (cs : List Char) : List Component :=
  if cs.head? = some '/' then [.root]
  else if cs.takeWhile (· ≠ '/') = ['.'] then [.current]
  else []

/-- What a path says, in order. -/
def components (path : String) : List Component :=
  lead path.toList ++ (steps path.toList).map .ofName

theorem lead_append_slash {cs : List Char} (full : cs ≠ []) (more : List Char) :
    lead (cs ++ '/' :: more) = lead cs := by
  have first : (cs ++ '/' :: more).takeWhile (· ≠ '/') = cs.takeWhile (· ≠ '/') := by
    rw [List.takeWhile_append]
    split
    · rename_i all
      rw [List.takeWhile_cons_of_neg (by simp), List.append_nil]
      exact ((List.takeWhile_prefix _).eq_of_length all).symm
    · rfl
  obtain ⟨c, rest, rfl⟩ := List.exists_cons_of_ne_nil full
  rw [lead, lead, first]
  rfl

/-- What stands after the first slash does not matter at the front. -/
theorem lead_slash_append (cs more : List Char) :
    lead (cs ++ '/' :: more) = lead (cs ++ ['/']) := by
  by_cases full : cs = []
  · subst full
    rfl
  · rw [lead_append_slash full, lead_append_slash full]

/-- A text without a slash says nothing at its front unless it is a dot. -/
theorem lead_of_not_mem {cs : List Char} (slash : '/' ∉ cs) (dot : cs ≠ ['.']) : lead cs = [] := by
  have whole : (cs ++ []).takeWhile (· ≠ '/') = cs ++ [] :=
    List.takeWhile_append_of_pos (ne_slash slash)
  rw [List.append_nil] at whole
  rw [lead, if_neg fun first => slash (List.mem_of_head? first), whole, if_neg dot]

theorem lead_trimEnd (cs : List Char) : lead (trimEnd cs).reverse = lead cs.reverse := by
  induction cs using trimEnd.induct with
  | case1 c rest ih =>
    rw [trimEnd, ih, @List.reverse_cons _ '/', lead_append_slash (by simp)]
  | case2 rest ih =>
    have dotted : ('.' :: '/' :: rest).reverse = rest.reverse ++ '/' :: ['.'] := by simp
    rw [trimEnd, ih, List.reverse_cons, dotted]
    exact (lead_slash_append _ _).symm
  | case3 cs no_slash no_dot => rw [trimEnd.eq_3 cs no_slash no_dot]

theorem components_ofList (cs : List Char) :
    components (String.ofList cs) = lead cs ++ (steps cs).map .ofName := by
  rw [components, String.toList_ofList]

/-- Slashes and single dots at the end of a path say nothing. -/
theorem components_trimEnd (path : String) :
    components path = lead (trimEnd path.toList.reverse).reverse ++
      (steps (trimEnd path.toList.reverse).reverse).map .ofName := by
  rw [lead_trimEnd, steps_trimEnd, List.reverse_reverse, components]

/-! ## The last component -/

variable {path name : String} {last before : List Char}

/-- Only a path that says nothing or just the root has no last component. -/
theorem components_of_splitLast?_eq_none (h : splitLast? path = none) :
    components path = [] ∨ components path = [.root] := by
  rw [components_trimEnd]
  rw [splitLast?] at h
  split at h
  · rename_i empty
    exact .inl (by rw [empty]; rfl)
  · rename_i root
    exact .inr (by rw [root]; rfl)
  · cases h

/-- A path says what is before its last component and then the last component. A dot is the last
component only if it is all that the path says. -/
theorem components_of_splitLast? (h : splitLast? path = some (last, before)) :
    (last = ['.'] ∧ components path = [.current]) ∨
      (last ≠ ['.'] ∧ components path =
        components (String.ofList before.reverse) ++ [.ofName (String.ofList last.reverse)]) := by
  obtain ⟨rest, trimmed, rfl, cut, slash, full⟩ := splitLast?_cut h
  rw [components_trimEnd, trimmed]
  by_cases dot : last = ['.']
  · subst dot
    obtain rfl | ⟨more, rfl⟩ := cut
    · exact .inl ⟨rfl, rfl⟩
    · exact absurd trimmed (trimEnd_ne _ '.' more).2
  · have plain : '/' ∉ last.reverse := mt List.mem_reverse.1 slash
    have dot' : last.reverse ≠ ['.'] := fun same => dot (by simpa using congrArg List.reverse same)
    have first : lead (last ++ rest).reverse = lead (trimEnd rest).reverse := by
      rw [lead_trimEnd, List.reverse_append]
      obtain rfl | ⟨more, rfl⟩ := cut
      · exact lead_of_not_mem plain dot'
      · rw [List.reverse_cons, List.append_assoc, List.singleton_append, lead_slash_append]
    refine .inr ⟨dot, ?_⟩
    rw [components_ofList, first, steps_append cut, steps_name plain (by simpa using full) dot',
      steps_trimEnd, List.map_append, List.append_assoc]
    rfl

/-- A path with a name says what the path before the name says, and then the name. -/
theorem components_fileName? (named : fileName? path = some name) :
    ∃ parent, parent? path = some parent ∧
      components path = components parent ++ [.name name] ∧ '/' ∉ name.toList := by
  obtain ⟨last, before, cut, rfl, dot, dots⟩ := fileName?_cut named
  have up : String.ofList last.reverse ≠ ".." := fun same =>
    dots (by simpa using congrArg (List.reverse ∘ String.toList) same)
  obtain ⟨_, _, _, _, slash, _⟩ := splitLast?_cut cut
  refine ⟨String.ofList before.reverse, by rw [parent?, cut]; rfl, ?_, by simpa using slash⟩
  rw [((components_of_splitLast? cut).resolve_left fun h => dot h.1).2, Component.ofName, if_neg up]

/-- What the paths without a name say: nothing, the root, the current directory, or to go up at
last. -/
theorem fileName?_eq_none_iff : fileName? path = none ↔
    components path ∈ [[], [.root], [.current]] ∨ (components path).getLast? = some .up := by
  constructor
  · intro unnamed
    cases cut : splitLast? path with
    | none =>
      obtain empty | root := components_of_splitLast?_eq_none cut
      · exact .inl (by simp [empty])
      · exact .inl (by simp [root])
    | some parts =>
      obtain ⟨last, before⟩ := parts
      obtain ⟨_, current⟩ | ⟨dot, whole⟩ := components_of_splitLast? cut
      · exact .inl (by simp [current])
      · by_cases dots : last = ['.', '.']
        · subst dots
          exact .inr (by rw [whole, List.getLast?_concat]; rfl)
        · rw [fileName?, cut] at unnamed
          simp [dot, dots] at unnamed
  · intro bare
    cases named : fileName? path with
    | none => rfl
    | some name =>
      obtain ⟨parent, _, whole, _⟩ := components_fileName? named
      rw [whole, List.getLast?_concat] at bare
      obtain listed | up := bare
      · simp [List.append_eq_singleton_iff] at listed
      · cases up

/-- The last name of a path is the last of its components. -/
theorem fileName?_eq_some_iff :
    fileName? path = some name ↔ (components path).getLast? = some (.name name) := by
  constructor
  · intro named
    obtain ⟨parent, _, whole, _⟩ := components_fileName? named
    rw [whole, List.getLast?_concat]
  · intro last
    cases named : fileName? path with
    | none =>
      obtain listed | up := fileName?_eq_none_iff.1 named
      · have listed : components path = [] ∨ components path = [.root] ∨
            components path = [.current] := by simpa using listed
        obtain same | same | same := listed <;> (rw [same] at last; cases last)
      · rw [up] at last
        cases last
    | some other =>
      obtain ⟨parent, _, whole, _⟩ := components_fileName? named
      rw [whole, List.getLast?_concat] at last
      cases last
      rfl

/-! ## Where components lead -/

/-- Where a component leads from a location. -/
def Component.move (here : Location) : Component → Location
  | .root => []
  | .current => here
  | .up => here.dropLast
  | .name n => here ++ [n]

theorem follow_eq_foldl (here : Location) (names : List String) :
    Disk.follow here names =
      ((names.filter (· ≠ ".")).map Component.ofName).foldl Component.move here := by
  induction names generalizing here with
  | nil => rfl
  | cons name names ih =>
    rw [Disk.follow]
    by_cases dot : name = "."
    · rw [if_pos dot, List.filter_cons_of_neg (by simpa using dot)]
      exact ih here
    · rw [if_neg dot, List.filter_cons_of_pos (by simpa using dot), List.map_cons, List.foldl_cons,
        Component.ofName]
      by_cases dots : name = ".."
      · rw [if_pos dots, if_pos dots]
        exact ih _
      · rw [if_neg dots, if_neg dots]
        exact ih _

/-- The components of a path alone decide where it leads. -/
theorem location_eq_foldl (disk : Disk) (path : String) :
    disk.location path = (components path).foldl Component.move disk.current := by
  have start : disk.start path = (lead path.toList).foldl Component.move disk.current := by
    rw [Disk.start, lead]
    split
    · rfl
    · split <;> rfl
  rw [Disk.location, follow_eq_foldl, start, components, List.foldl_append]
  rfl

theorem location_concat (disk : Disk) {parent : String}
    (whole : components path = components parent ++ [.name name]) :
    disk.location path = disk.location parent ++ [name] := by
  rw [location_eq_foldl, whole, List.foldl_append, ← location_eq_foldl]
  rfl

/-! ## Below a directory -/

variable {ending : String}

/-- A name below a directory is one component more. -/
theorem components_join_ending (h : IsEnding ending) (directory : String) {front : String}
    (slash : '/' ∉ front.toList) :
    components (join directory (front ++ ending)) =
      components directory ++ [.name (front ++ ending)] := by
  have plain : '/' ∉ (front ++ ending).toList := by
    rw [String.toList_append, List.mem_append]
    exact not_or.2 ⟨slash, h.slash⟩
  have relative : (front ++ ending).toList.head? ≠ some '/' := fun root =>
    plain (List.mem_of_head? root)
  obtain ⟨single, dots⟩ := steps_ending h slash
  rw [← String.toList_append] at single dots
  rw [String.ofList_toList] at single
  rw [single, List.mem_singleton] at dots
  have first : lead (join directory (front ++ ending)).toList = lead directory.toList := by
    unfold join
    split
    · rename_i empty
      rw [empty.resolve_left relative]
      refine lead_of_not_mem plain ?_
      rw [String.toList_append]
      exact (h.ne_dots _).1
    · rename_i full
      split
      · rename_i ends
        obtain ⟨stem, ends⟩ := List.getLast?_eq_some_iff.1 ends
        rw [String.toList_append, ends, List.append_assoc, List.singleton_append,
          lead_slash_append]
      · rw [String.toList_append, String.toList_append, List.append_assoc]
        exact lead_append_slash (mt String.toList_eq_nil_iff.1 (not_or.1 full).2) _
  rw [components, first, steps_join relative, single, List.map_append, ← List.append_assoc,
    ← components, List.map_singleton, Component.ofName, if_neg (Ne.symm dots)]

/-! ## Preparing a file -/

/-- The path at which a file is prepared says what the path before the name says, and then the name
with a longer ending. -/
theorem components_temporary (named : fileName? path = some name) :
    ∃ parent, parent? path = some parent ∧ components path = components parent ++ [.name name] ∧
      components (temporary path) = components parent ++ [.name (name ++ ".tmp")] := by
  obtain ⟨parent, above, whole, slash⟩ := components_fileName? named
  have prepared : temporary path = join parent (name ++ ".tmp") := by
    rw [temporary, withFileName, named, above]
    rfl
  exact ⟨parent, above, whole, prepared ▸ components_join_ending isEnding_tmp parent slash⟩

theorem fileName?_temporary (named : fileName? path = some name) :
    fileName? (temporary path) = some (name ++ ".tmp") := by
  obtain ⟨parent, _, _, beside⟩ := components_temporary named
  rw [fileName?_eq_some_iff, beside, List.getLast?_concat]

theorem parent?_temporary (named : fileName? path = some name) :
    (parent? (temporary path)).map components = (parent? path).map components := by
  obtain ⟨parent, above, _, beside⟩ := components_temporary named
  obtain ⟨parent', above', whole, _⟩ := components_fileName? (fileName?_temporary named)
  rw [above, above', Option.map_some, Option.map_some]
  exact congrArg some (List.append_inj_left' (whole.symm.trans beside) rfl)

/-- A name with an ending is another name. -/
theorem append_tmp_ne (name : String) : name ++ ".tmp" ≠ name := fun same =>
  absurd (String.append_eq_left_iff.1 same) (by decide)

/-- From where a file is prepared one can tell where it goes. -/
theorem temporary_inj {other name' : String} (named : fileName? path = some name)
    (named' : fileName? other = some name')
    (same : components (temporary path) = components (temporary other)) :
    name = name' ∧ (parent? path).map components = (parent? other).map components := by
  obtain ⟨parent, above, _, beside⟩ := components_temporary named
  obtain ⟨parent', above', _, beside'⟩ := components_temporary named'
  obtain ⟨front, last⟩ := List.append_inj' (beside.symm.trans (same.trans beside')) rfl
  have longer := Component.name.inj (List.cons.inj last).1
  refine ⟨(String.append_left_inj ".tmp").1 longer, ?_⟩
  rw [above, above', Option.map_some, Option.map_some, front]

/-- A path without a name is taken for a directory. -/
theorem temporary_of_unnamed (unnamed : fileName? path = none) :
    temporary path = join path ("uibind" ++ ".tmp") := by
  rw [temporary, withFileName, unnamed]
  rfl

theorem join_uibind (directory : String) : join directory "uibind.tmp" =
    (if directory = "" ∨ Disk.endsInSlash directory then directory else directory ++ "/") ++
      "uibind.tmp" := by
  have relative : "uibind.tmp".toList.head? ≠ some '/' := by decide
  by_cases empty : directory = ""
  · subst empty
    rfl
  · simp only [join, relative, empty, Disk.endsInSlash, decide_eq_true_eq, false_or, if_false]
    split <;> rfl

/-- A file is prepared beside the one that it is to replace. Both paths go through the same
components, to different names: on any disk they lead into one directory, never to the same place,
and to rename one to the other moves a file within that directory. From where a file is prepared one
can tell where it goes. A path without a name (which says nothing, the root, the current directory,
or to go up at last) is taken for the directory to prepare a file in. -/
theorem temporary_beside (path : String) :
    (∀ name, fileName? path = some name → ∃ parent beside,
      parent? path = some parent ∧ parent? (temporary path) = some beside ∧
      components beside = components parent ∧
      fileName? (temporary path) = some (name ++ ".tmp") ∧
      components path = components parent ++ [.name name] ∧
      components (temporary path) = components beside ++ [.name (name ++ ".tmp")] ∧
      ∀ disk : Disk,
        disk.location path = disk.location parent ++ [name] ∧
        disk.location (temporary path) = disk.location parent ++ [name ++ ".tmp"] ∧
        disk.location (temporary path) ≠ disk.location path ∧
        ∀ after, disk.rename (temporary path) path = .ok after → ∃ bytes,
          disk.at? (disk.location parent ++ [name ++ ".tmp"]) = some (.file bytes) ∧
          after = (disk.clear (disk.location parent ++ [name ++ ".tmp"])).put
            (disk.location parent ++ [name]) (.file bytes)) ∧
    (∀ other name name', fileName? path = some name → fileName? other = some name' →
      components (temporary path) = components (temporary other) →
      name = name' ∧ (parent? path).map components = (parent? other).map components) ∧
    (fileName? path = none ↔
      components path ∈ [[], [.root], [.current]] ∨ (components path).getLast? = some .up) ∧
    (fileName? path = none →
      temporary path = (if path = "" ∨ Disk.endsInSlash path then path else path ++ "/") ++
        "uibind.tmp" ∧
      components (temporary path) = components path ++ [.name "uibind.tmp"]) := by
  refine ⟨fun name named => ?_, fun other name name' => temporary_inj, fileName?_eq_none_iff,
    fun unnamed => ?_⟩
  · obtain ⟨parent, above, whole, prepared⟩ := components_temporary named
    obtain ⟨beside, above', front⟩ : ∃ beside, parent? (temporary path) = some beside ∧
        components beside = components parent := by
      rw [← Option.map_eq_some_iff, parent?_temporary named, above, Option.map_some]
    refine ⟨parent, beside, above, above', front, fileName?_temporary named, whole,
      by rw [front, prepared], fun disk => ?_⟩
    have target := location_concat disk whole
    have source := location_concat disk prepared
    refine ⟨target, source, fun same => ?_, fun after renamed => ?_⟩
    · rw [source, target] at same
      exact append_tmp_ne name (List.cons.inj (List.append_cancel_left same)).1
    · obtain ⟨old, new, bytes, opens, holds, opens', rfl⟩ := Disk.rename_eq_ok renamed
      rw [opens.eq_location, source] at holds
      rw [opens.eq_location, opens'.eq_location, source, target]
      exact ⟨bytes, holds, rfl⟩
  · rw [temporary_of_unnamed unnamed]
    exact ⟨join_uibind path, components_join_ending isEnding_tmp path (by decide)⟩

/-- Two texts with slashes and dots that do not count, and one that goes up at last. -/
theorem temporary_beside_slashes :
    fileName? "out//./ui.cpp/." = some "ui.cpp" ∧ fileName? "out/./ui.cpp//" = some "ui.cpp" ∧
    fileName? (temporary "out//./ui.cpp/.") = some "ui.cpp.tmp" ∧
    (parent? "out//./ui.cpp/.").map components = (parent? "out/./ui.cpp//").map components ∧
    fileName? "out/..//" = none ∧ temporary "out/..//" = "out/..//uibind.tmp" := by
  have named : fileName? "out//./ui.cpp/." = some "ui.cpp" := by decide
  have named' : fileName? "out/./ui.cpp//" = some "ui.cpp" := by decide
  have unnamed : fileName? "out/..//" = none := by decide
  have same : temporary "out//./ui.cpp/." = temporary "out/./ui.cpp//" := by decide
  obtain ⟨beside, told, _, _⟩ := temporary_beside "out//./ui.cpp/."
  obtain ⟨_, _, _, directory⟩ := temporary_beside "out/..//"
  obtain ⟨_, _, _, _, _, name, _⟩ := beside "ui.cpp" named
  refine ⟨named, named', name, (told _ _ _ named named' (congrArg components same)).2, unnamed, ?_⟩
  exact (directory unnamed).1.trans (by decide)

/-- A path without a name may have the place of one with a name. -/
example : temporary "" = temporary "uibind" := by decide

end WidgetBindings.Path
