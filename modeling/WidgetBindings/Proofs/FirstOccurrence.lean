import Mathlib.Data.List.Basic
import Mathlib.Data.List.Induction

/-!
# First occurrences

What is left of a list of identifiers when each is kept where it comes up first.

* `nodup_eraseDups`, `eraseDups_concat`: each identifier is left once, and one more at the end is
  left only if it is new;
* `eraseDups_filter`: identifiers may be selected before or after repetitions are left out;
* `repetitions_filter_le`: a selection repeats no more than the whole list does.
-/

namespace WidgetBindings

/-- Of each element its first occurrence is left. -/
theorem nodup_eraseDups (ids : List String) : ids.eraseDups.Nodup := by
  match ids with
  | [] => exact .nil
  | id :: ids =>
    rw [List.eraseDups_cons, List.nodup_cons]
    exact ⟨by simp [List.mem_eraseDups], nodup_eraseDups _⟩
termination_by ids.length
decreasing_by exact Nat.lt_succ_of_le (List.length_filter_le _ _)

theorem eraseDups_concat (ids : List String) (id : String) :
    (ids ++ [id]).eraseDups = if id ∈ ids then ids.eraseDups else ids.eraseDups ++ [id] := by
  rw [List.eraseDups_append]
  by_cases known : id ∈ ids
  · have nothing : [id].removeAll ids = [] := by simp [List.removeAll, known]
    rw [nothing, if_pos known, List.eraseDups_nil, List.append_nil]
  · have itself : [id].removeAll ids = [id] := by simp [List.removeAll, known]
    rw [itself, if_neg known]
    rfl

theorem eraseDups_filter (keep : String → Bool) (ids : List String) :
    (ids.filter keep).eraseDups = ids.eraseDups.filter keep := by
  -- from the end, for that is where one more identifier may be left out
  induction ids using List.reverseRecOn with
  | nil => rfl
  | append_singleton ids id ih =>
    rw [List.filter_append, eraseDups_concat]
    by_cases kept : keep id
    · have last : [id].filter keep = [id] := by simp [kept]
      rw [last, eraseDups_concat, ih]
      by_cases known : id ∈ ids
      · rw [if_pos known, if_pos (List.mem_filter.2 ⟨known, kept⟩)]
      · have new : id ∉ ids.filter keep := fun mem => known (List.mem_filter.1 mem).1
        rw [if_neg known, if_neg new, List.filter_append, last]
    · have last : [id].filter keep = [] := by simp [kept]
      rw [last, List.append_nil, ih]
      by_cases known : id ∈ ids
      · rw [if_pos known]
      · rw [if_neg known, List.filter_append, last, List.append_nil]

theorem length_eraseDups_le (ids : List String) : ids.eraseDups.length ≤ ids.length := by
  induction ids using List.reverseRecOn with
  | nil => exact Nat.le_refl 0
  | append_singleton ids id ih =>
    rw [eraseDups_concat, List.length_append]
    split
    · exact Nat.le_add_right_of_le ih
    · rw [List.length_append]
      exact Nat.add_le_add_right ih _

/-- What a list holds besides a selection has no fewer elements than it has distinct ones. -/
theorem repetitions_filter_le (keep : String → Bool) (ids : List String) :
    (ids.filter keep).length + ids.eraseDups.length ≤
      ids.length + (ids.filter keep).eraseDups.length := by
  have all := List.length_eq_length_filter_add (l := ids) keep
  have distinct := List.length_eq_length_filter_add (l := ids.eraseDups) keep
  have others := length_eraseDups_le (ids.filter fun id => !keep id)
  rw [eraseDups_filter] at others
  rw [eraseDups_filter]
  omega

end WidgetBindings
