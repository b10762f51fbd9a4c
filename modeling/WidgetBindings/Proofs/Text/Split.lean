import WidgetBindings.Text.Split

/-!
# The parts of a text

What a text comes apart into at the occurrences of a character.

* `splitOn_append_cons`: what follows an occurrence comes apart by itself;
* `length_splitOn`: there is one part more than there are occurrences;
* `notMem_of_mem_splitOn`: the character is in none of the parts;
* `byParts`: so what holds of parts, and of one part in front of more, holds of every text.
-/

namespace WidgetBindings.Text

variable {c : Char} {cs : List Char}

theorem splitOn_ne_nil (c : Char) (cs : List Char) : splitOn c cs ≠ [] := by
  cases cs with
  | nil => simp [splitOn]
  | cons d cs =>
    rw [splitOn]
    split
    · simp
    · split <;> simp

/-- A text comes apart at each occurrence of a character. -/
theorem splitOn_append_cons (c : Char) (cs more : List Char) :
    splitOn c (cs ++ c :: more) = splitOn c cs ++ splitOn c more := by
  induction cs with
  | nil => simp [splitOn]
  | cons d cs ih =>
    rw [List.cons_append, splitOn, splitOn, ih]
    by_cases here : d = c
    · rw [if_pos here, if_pos here, List.cons_append]
    · rw [if_neg here, if_neg here]
      cases parts : splitOn c cs with
      | nil => exact absurd parts (splitOn_ne_nil c cs)
      | cons part parts => rfl

theorem splitOn_of_not_mem (h : c ∉ cs) : splitOn c cs = [cs] := by
  induction cs with
  | nil => rfl
  | cons d cs ih =>
    obtain ⟨apart, rest⟩ := not_or.1 (mt List.mem_cons.2 h)
    rw [splitOn, if_neg (Ne.symm apart), ih rest]

/-- What holds no occurrence goes on with the last part. -/
theorem splitOn_append (h : c ∉ cs) (front : List Char) :
    ∃ parts last, splitOn c (front ++ cs) = parts ++ [last ++ cs] := by
  induction front with
  | nil => exact ⟨[], [], splitOn_of_not_mem h⟩
  | cons d front ih =>
    obtain ⟨parts, last, same⟩ := ih
    rw [List.cons_append, splitOn, same]
    by_cases hd : d = c
    · rw [if_pos hd]
      exact ⟨[] :: parts, last, rfl⟩
    · rw [if_neg hd]
      cases parts with
      | nil => exact ⟨[], d :: last, rfl⟩
      | cons part parts => exact ⟨(d :: part) :: parts, last, rfl⟩

/-- A text is a part, or a part, an occurrence of the character, and a text. -/
@[elab_as_elim] theorem byParts (c : Char) {P : List Char → Prop}
    (last : ∀ part, c ∉ part → P part)
    (next : ∀ part rest, c ∉ part → P rest → P (part ++ c :: rest)) (cs : List Char) : P cs := by
  -- on the length, for a part may be empty
  induction size : cs.length using Nat.strongRecOn generalizing cs with
  | ind n ih =>
    by_cases there : c ∈ cs
    · obtain ⟨part, rest, rfl, first⟩ := List.eq_append_cons_of_mem there
      rw [List.length_append, List.length_cons] at size
      exact next part rest first (ih rest.length (by omega) rest rfl)
    · exact last cs there

theorem length_splitOn (c : Char) (cs : List Char) :
    (splitOn c cs).length = cs.count c + 1 := by
  induction cs using byParts c with
  | last part free => rw [splitOn_of_not_mem free, List.count_eq_zero.2 free, List.length_singleton]
  | next part rest free ih =>
    rw [splitOn_append_cons, splitOn_of_not_mem free, List.length_append, ih, List.count_append,
      List.count_cons_self, List.count_eq_zero.2 free, List.length_singleton]
    omega

theorem notMem_of_mem_splitOn {part : List Char} (h : part ∈ splitOn c cs) : c ∉ part := by
  induction cs using byParts c with
  | last whole free =>
    rw [splitOn_of_not_mem free, List.mem_singleton] at h
    exact h ▸ free
  | next first rest free ih =>
    rw [splitOn_append_cons, splitOn_of_not_mem free, List.singleton_append, List.mem_cons] at h
    obtain rfl | later := h
    · exact free
    · exact ih later

end WidgetBindings.Text
