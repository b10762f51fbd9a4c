import WidgetBindings.Text.Lines

/-!
# Lines and line feeds

A text that ends in a line feed can be taken apart there (`lines_append`). Lines that are written
one below the other are read as they were, as long as no line holds a line feed and none ends in a
carriage return (`lines_unlines`).
-/

namespace WidgetBindings.Text

/-- A text that is read as it is when it stands on a line of its own. -/
structure IsLine (cs : List Char) : Prop where
  noFeed : '\n' ∉ cs
  noReturn : cs.getLast? ≠ some '\r'

instance (cs : List Char) : Decidable (IsLine cs) :=
  decidable_of_iff ('\n' ∉ cs ∧ cs.getLast? ≠ some '\r')
    ⟨fun h => ⟨h.1, h.2⟩, fun h => ⟨h.noFeed, h.noReturn⟩⟩

/-- Lines one below the other, each with a line feed at its end. -/
def unlines (ls : List (List Char)) : List Char := ls.flatMap (· ++ ['\n'])

@[simp] theorem unlines_nil : unlines [] = [] := rfl

@[simp] theorem unlines_cons (l : List Char) (ls : List (List Char)) :
    unlines (l :: ls) = l ++ '\n' :: unlines ls := by
  simp [unlines]

@[simp] theorem unlines_append (ls ms : List (List Char)) :
    unlines (ls ++ ms) = unlines ls ++ unlines ms := by
  simp [unlines]

theorem endLine_reverse {cs : List Char} (h : cs.getLast? ≠ some '\r') :
    endLine cs.reverse = cs := by
  rw [← List.head?_reverse] at h
  unfold endLine
  split
  · rename_i before whole
    rw [whole] at h
    exact absurd rfl h
  · exact cs.reverse_reverse

theorem linesAfter_cons {line : List Char} (noFeed : '\n' ∉ line) (before rest : List Char) :
    linesAfter before (line ++ '\n' :: rest) =
      endLine (line.reverse ++ before) :: linesAfter [] rest := by
  induction line generalizing before with
  | nil => simp [linesAfter]
  | cons c line ih =>
    obtain ⟨first, others⟩ := not_or.1 (mt List.mem_cons.2 noFeed)
    rw [List.cons_append, linesAfter, if_neg (Ne.symm first), ih others]
    simp

theorem linesAfter_noFeed {line : List Char} (noFeed : '\n' ∉ line) (before : List Char) :
    linesAfter before line = linesAfter (line.reverse ++ before) [] := by
  induction line generalizing before with
  | nil => rfl
  | cons c line ih =>
    obtain ⟨first, others⟩ := not_or.1 (mt List.mem_cons.2 noFeed)
    have passed : linesAfter before (c :: line) = linesAfter (c :: before) line := by
      rw [linesAfter, if_neg (Ne.symm first)]
    rw [passed, ih others, List.reverse_cons, List.append_assoc, List.singleton_append]

/-- Without a line feed a text is one line, unless it is empty. -/
theorem lines_noFeed {line : List Char} (noFeed : '\n' ∉ line) :
    lines line = if line = [] then [] else [line] := by
  rw [lines, linesAfter_noFeed noFeed, List.append_nil]
  cases h : line.reverse with
  | nil => rw [List.reverse_eq_nil_iff.1 h, if_pos rfl, linesAfter]
  | cons c before =>
    have full : line ≠ [] := by
      rintro rfl
      cases h
    rw [if_neg full, linesAfter, ← h, List.reverse_reverse]
    exact List.cons_ne_nil c before

theorem lines_cons {line : List Char} (h : IsLine line) (rest : List Char) :
    lines (line ++ '\n' :: rest) = line :: lines rest := by
  rw [lines, linesAfter_cons h.noFeed, List.append_nil, endLine_reverse h.noReturn, lines]

/-- Lines are read as they were written. -/
theorem lines_unlines {ls : List (List Char)} (h : ∀ l ∈ ls, IsLine l) :
    lines (unlines ls) = ls := by
  induction ls with
  | nil => rfl
  | cons l ls ih =>
    obtain ⟨first, others⟩ := List.forall_mem_cons.1 h
    rw [unlines_cons, lines_cons first, ih others]

theorem linesAfter_append (before a b : List Char) :
    linesAfter before (a ++ '\n' :: b) = linesAfter before (a ++ ['\n']) ++ linesAfter [] b := by
  induction a generalizing before with
  | nil => simp [linesAfter]
  | cons c a ih =>
    simp only [List.cons_append, linesAfter]
    by_cases feed : c = '\n'
    · rw [if_pos feed, if_pos feed, ih, List.cons_append]
    · rw [if_neg feed, if_neg feed, ih]

/-- What follows a line feed is read by itself. -/
theorem lines_append (a b : List Char) :
    lines (a ++ '\n' :: b) = lines (a ++ ['\n']) ++ lines b :=
  linesAfter_append [] a b

end WidgetBindings.Text
