import WidgetBindings.Path
import WidgetBindings.Proofs.Disk.Walking
import WidgetBindings.Proofs.Text.Split

/-!
# Paths that end alike

The files of a project are named by one path with endings of their own.

* `parent?_append`, `temporary_append`: they lie in one directory, and so do the files in which they
  are prepared, whose names have longer endings;
* `place_append`: a path with an ending leads to a name with that ending, and `concat_ne` tells such
  names apart.
-/

namespace WidgetBindings.Path

/-- What may be put at the end of a path to name a file: the name stays one name and is no dots. -/
structure IsEnding (ending : String) : Prop where
  slash : '/' ∉ ending.toList
  last : ∃ c, ending.toList.getLast? = some c ∧ c ≠ '.'

variable {ending : String}

theorem IsEnding.ne_nil (h : IsEnding ending) : ending.toList ≠ [] := by
  obtain ⟨c, last, _⟩ := h.last
  intro none
  rw [none] at last
  cases last

theorem IsEnding.append {more : String} (h : IsEnding ending) (g : IsEnding more) :
    IsEnding (ending ++ more) := by
  obtain ⟨c, last, dot⟩ := g.last
  refine ⟨?_, c, ?_, dot⟩
  · rw [String.toList_append, List.mem_append]
    exact not_or.2 ⟨h.slash, g.slash⟩
  · rw [String.toList_append, List.getLast?_append, last]
    rfl

/-! ## Names and directories -/

theorem ne_slash {cs : List Char} (slash : '/' ∉ cs) : ∀ c ∈ cs, decide (c ≠ '/') = true := by
  intro c mem
  rw [decide_eq_true_eq]
  rintro rfl
  exact slash mem

theorem trimEnd_cons {c : Char} (slash : c ≠ '/') (dot : c ≠ '.') (cs : List Char) :
    trimEnd (c :: cs) = c :: cs := by
  rw [trimEnd]
  · rintro d rest h
    cases h
    exact slash rfl
  · rintro rest h
    cases h
    exact dot rfl

theorem splitLast?_append (h : IsEnding ending) (front : String) :
    splitLast? (front ++ ending) =
      some (ending.toList.reverse ++ front.toList.reverse.takeWhile (· ≠ '/'),
        trimEnd (front.toList.reverse.dropWhile (· ≠ '/'))) := by
  obtain ⟨c, last, dot⟩ := h.last
  obtain ⟨cs, same⟩ := List.getLast?_eq_some_iff.1 last
  have slash : c ≠ '/' := by
    rintro rfl
    exact h.slash (same ▸ by simp)
  have name := ne_slash (mt List.mem_reverse.1 h.slash)
  have whole : (front ++ ending).toList.reverse =
      c :: (cs.reverse ++ front.toList.reverse) := by
    simp [String.toList_append, same]
  have trimmed : trimEnd (front ++ ending).toList.reverse =
      ending.toList.reverse ++ front.toList.reverse := by
    rw [whole, trimEnd_cons slash dot, same]
    simp
  rw [splitLast?, trimmed]
  split
  · rename_i none
    exact absurd (List.append_eq_nil_iff.1 none).1 (by simpa using h.ne_nil)
  · rename_i root
    rw [same] at root
    simp at root
    exact absurd root.1 slash
  · rw [List.takeWhile_append_of_pos name, List.dropWhile_append_of_pos name]

/-- The path before the last name does not depend on the ending of the name. -/
theorem parent?_append (h : IsEnding ending) (front : String) :
    parent? (front ++ ending) =
      some (String.ofList (trimEnd (front.toList.reverse.dropWhile (· ≠ '/'))).reverse) := by
  rw [parent?, splitLast?_append h]
  rfl

theorem fileName?_append (h : IsEnding ending) (front : String) :
    fileName? (front ++ ending) =
      some (String.ofList (front.toList.reverse.takeWhile (· ≠ '/')).reverse ++ ending) := by
  obtain ⟨c, last, dot⟩ := h.last
  obtain ⟨cs, same⟩ := List.getLast?_eq_some_iff.1 last
  rw [fileName?, splitLast?_append h]
  simp only [same, List.reverse_append, List.reverse_cons, List.reverse_nil, List.nil_append,
    List.cons_append, List.cons.injEq, dot, false_and, or_self, if_false]
  refine congrArg some (String.toList_inj.1 ?_)
  simp [same]

theorem join_append (h : IsEnding ending) (directory front : String) :
    join directory (front ++ ending) = join directory front ++ ending := by
  have root : (front ++ ending).toList.head? = some '/' ↔ front.toList.head? = some '/' := by
    rw [String.toList_append]
    cases front.toList with
    | cons c cs => exact Iff.rfl
    | nil =>
      refine ⟨fun first => absurd (List.mem_of_head? first) h.slash, fun none => ?_⟩
      cases none
  unfold join
  simp only [root]
  split
  · rfl
  · split
    · exact String.append_assoc.symm
    · exact String.append_assoc.symm

theorem isEnding_tmp : IsEnding ".tmp" := ⟨by decide, 'p', by decide, by decide⟩

/-- The file in which another one is prepared has a longer ending. -/
theorem temporary_append (h : IsEnding ending) (front : String) :
    ∃ before, temporary (front ++ ending) = before ++ (ending ++ ".tmp") := by
  rw [temporary, withFileName, fileName?_append h]
  simp only [Option.getD_some]
  exact ⟨_, by rw [String.append_assoc, join_append (h.append isEnding_tmp)]⟩

/-- The paths that are written to when the file at a path is replaced. -/
def written (path : String) : List String := [path, temporary path]

theorem mem_written (path : String) : path ∈ written path := List.mem_cons_self

theorem temporary_mem_written (path : String) : temporary path ∈ written path :=
  List.mem_cons_of_mem _ List.mem_cons_self

/-! ## Places -/

/-- What has an ending is no dots. -/
theorem IsEnding.ne_dots (h : IsEnding ending) (front : List Char) :
    front ++ ending.toList ≠ ['.'] ∧ front ++ ending.toList ≠ ['.', '.'] := by
  obtain ⟨c, last, dot⟩ := h.last
  have last : (front ++ ending.toList).getLast? = some c := by
    rw [List.getLast?_append, last]
    rfl
  constructor
  · intro same
    rw [same] at last
    exact dot (Option.some.inj last).symm
  · intro same
    rw [same] at last
    exact dot (Option.some.inj last).symm

/-- The last name in a path with an ending has that ending, and it is no dots. -/
theorem namesOf_append (h : IsEnding ending) (front : String) :
    ∃ names stem, Disk.namesOf (front ++ ending) = names ++ [stem ++ ending] ∧
      stem ++ ending ≠ "." ∧ stem ++ ending ≠ ".." := by
  obtain ⟨parts, last, same⟩ := Text.splitOn_append h.slash front.toList
  have full : (last ++ ending.toList).isEmpty = false := by
    simpa using fun _ => h.ne_nil
  obtain ⟨dot, dots⟩ := h.ne_dots last
  refine ⟨(parts.filter (!·.isEmpty)).map String.ofList, String.ofList last, ?_, ?_, ?_⟩
  · rw [Disk.namesOf, String.toList_append, same, List.filter_append,
      List.filter_cons_of_pos (by rw [full]; rfl), List.filter_nil, List.map_append, List.map_cons,
      List.map_nil, String.ofList_append, String.ofList_toList]
  · intro single
    exact dot (by simpa using congrArg String.toList single)
  · intro double
    exact dots (by simpa using congrArg String.toList double)

/-- The last name on the way to a path with an ending has that ending. -/
theorem place_append (disk : Disk) (h : IsEnding ending) (front : String) :
    ∃ parent stem, disk.place (front ++ ending) = parent ++ [stem ++ ending] := by
  obtain ⟨names, stem, same, dot, _⟩ := namesOf_append h front
  refine ⟨disk.start (front ++ ending) ++ names.filter (· ≠ "."), stem, ?_⟩
  rw [Disk.place, same, List.filter_append, List.filter_cons_of_pos (by simpa using dot),
    List.filter_nil, List.append_assoc]

/-- Names are apart if neither ending ends in the other. -/
theorem concat_ne {other : String}
    (apart : ¬ending.toList <:+ other.toList ∧ ¬other.toList <:+ ending.toList)
    (parent parent' : Location) (stem stem' : String) :
    parent ++ [stem ++ ending] ≠ parent' ++ [stem' ++ other] := by
  intro same
  have names := congrArg String.toList (List.append_inj_right' same rfl |> List.cons.inj |>.1)
  rw [String.toList_append, String.toList_append] at names
  obtain suffix | suffix := List.suffix_or_suffix_of_suffix
    (List.suffix_append stem.toList ending.toList) (names ▸ List.suffix_append stem'.toList _)
  · exact apart.1 suffix
  · exact apart.2 suffix

end WidgetBindings.Path
