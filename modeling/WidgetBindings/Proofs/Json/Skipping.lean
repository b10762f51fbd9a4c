import WidgetBindings.Proofs.Json.Spans

/-!
# What is passed over is a value

Values are passed over without recursion, with the open containers on a stack. What the stack still
demands (`Closes`) is carried along, so that in the end a value by the grammar has been passed over
(`skip_value_eq_ok`).
-/

namespace WidgetBindings.Json

open Read Skip

variable {unread text rest : List UInt8}

theorem exists_blanks (unread : List UInt8) :
    ∃ blanks, unread = blanks ++ skipBlanks unread ∧ Blank blanks :=
  ⟨unread.takeWhile isBlankByte, List.takeWhile_append_dropWhile.symm,
    List.all_eq_true.1 List.all_takeWhile⟩

/-! ## What has been passed over -/

theorem skip_scalar_eq_ok {b : UInt8} (h : Skip.scalar b unread = .ok rest) :
    ∃ text, unread = text ++ rest ∧ Spells .value (b :: text) := by
  unfold Skip.scalar at h
  split_ifs at h with isNull isTrue isFalse minus digit quote
  · exact ⟨_, word_eq_ok_iff.1 h, .word (isNull ▸ by decide)⟩
  · exact ⟨_, word_eq_ok_iff.1 h, .word (isTrue ▸ by decide)⟩
  · exact ⟨_, word_eq_ok_iff.1 h, .word (isFalse ▸ by decide)⟩
  · obtain ⟨text, rfl, magnitude⟩ := skip_number_eq_ok_own h
    exact ⟨text, rfl, minus ▸ .number (.negative magnitude)⟩
  · obtain ⟨text, same, magnitude⟩ := skip_number_eq_ok_own h
    obtain ⟨c, text, rfl, _⟩ := magnitude.exists_cons
    cases same
    exact ⟨text, rfl, .number (.positive magnitude)⟩
  · obtain ⟨text, rfl, string⟩ := skip_string_eq_ok_iff.1 h
    exact ⟨text, rfl, quote ▸ .string string⟩

/-- What stands between the brackets of a container, from its beginning or after a value. -/
def Skip.Bracket.inner : Bracket → (first : Bool) → Shape
  | .list, first => .items first
  | .object, first => .members first

theorem spells_closing (bracket : Bracket) (first : Bool) :
    Spells (bracket.inner first) [bracket.closing] := by
  cases bracket
  · exact .listEnd first
  · exact .objectEnd first

theorem spells_opening {b : UInt8} {bracket : Bracket} (opened : Bracket.opening? b = some bracket)
    (h : Spells (bracket.inner true) text) : Spells .value (b :: text) := by
  unfold Bracket.opening? at opened
  split_ifs at opened with list object
  · cases opened
    exact list ▸ .list h
  · cases opened
    exact object ▸ .object h

theorem skip_key_eq_ok {start : List UInt8} (h : Skip.key unread = .ok start) :
    ∃ front, unread = front ++ start ∧
      ∀ value, Spells .value value → Spells .member (front ++ value) := by
  unfold Skip.key at h
  obtain ⟨blanks, same, all⟩ := exists_blanks unread
  split at h
  · cases h
  · rename_i b behind begins
    split_ifs at h with quote
    obtain ⟨after, name, go⟩ := bind_eq_ok_iff.1 h
    obtain ⟨key, rfl, string⟩ := skip_string_eq_ok_iff.1 name
    obtain ⟨between, spaces, each⟩ := exists_blanks after
    split at go
    · cases go
    · rename_i sign
      split_ifs at go with isColon
      cases go
      refine ⟨blanks ++ 34 :: (key ++ (between ++ [58])), ?_, fun value spells => ?_⟩
      · rw [same, begins, spaces, sign, quote, isColon]
        simp
      · rw [List.append_assoc, List.cons_append, List.append_assoc, List.append_assoc]
        exact .blanks all (.member string (.blanks each (.colon spells)))

/-- The next value of a container and what follows it, from the opening bracket or the comma on. -/
theorem skip_item_eq_ok {bracket : Bracket} {start : List UInt8}
    (h : Skip.item bracket unread = .ok start) :
    ∃ front, unread = front ++ start ∧ ∀ value more, Spells .value value →
      Spells (bracket.inner false) more →
        Spells (bracket.inner true) (front ++ (value ++ more)) ∧
        Spells (bracket.inner false) (44 :: (front ++ (value ++ more))) := by
  cases bracket with
  | list =>
    cases h
    refine ⟨[], rfl, fun value more first others => ?_⟩
    rw [List.nil_append]
    exact ⟨.item first others, .nextItem first others⟩
  | object =>
    obtain ⟨front, same, member⟩ := skip_key_eq_ok h
    refine ⟨front, same, fun value more first others => ?_⟩
    rw [← List.append_assoc]
    exact ⟨.firstMember (member value first) others, .nextMember (member value first) others⟩

/-- The bytes close the open containers, the innermost of which comes first. In that one nothing has
been passed over yet if `first` is set. -/
inductive Closes : (first : Bool) → List Bracket → List UInt8 → Prop
  | none (first : Bool) : Closes first [] []
  | one {first : Bool} {bracket : Bracket} {outer : List Bracket} {text more : List UInt8} :
      Spells (bracket.inner first) text → Closes false outer more →
      Closes first (bracket :: outer) (text ++ more)

/-- Either no container is open and there are no bytes left, or a value comes next and then the open
containers are closed. -/
inductive GoesOn : List Bracket → List UInt8 → Prop
  | stop : GoesOn [] []
  | value {bracket : Bracket} {outer : List Bracket} {text more : List UInt8} :
      Spells .value text → Closes false (bracket :: outer) more →
      GoesOn (bracket :: outer) (text ++ more)

theorem settle_closes {stack remaining : List Bracket} {first : Bool} {left : List UInt8}
    (h : settle stack first unread = .ok (remaining, left ++ rest)) (goes : GoesOn remaining left) :
    ∃ text, unread = text ++ rest ∧ Closes first stack text := by
  induction stack generalizing first unread with
  | nil =>
    cases h
    cases goes with
    | stop => exact ⟨[], rfl, .none first⟩
  | cons bracket outer ih =>
    rw [settle] at h
    obtain ⟨blanks, same, all⟩ := exists_blanks unread
    split at h
    · cases h
    · rename_i b behind begins
      rw [begins] at same
      split_ifs at h with closing isFirst comma
      · obtain ⟨more, rfl, closes⟩ := ih h
        refine ⟨blanks ++ [b] ++ more, by simp [same], ?_⟩
        exact .one (.blanks all (closing ▸ spells_closing bracket first)) closes
      · obtain ⟨start, item, go⟩ := bind_eq_ok_iff.1 h
        cases go
        obtain ⟨front, found, spells⟩ := skip_item_eq_ok item
        cases goes with
        | value value closes =>
          cases closes with
          | one inner closes =>
            refine ⟨_, ?_, .one (.blanks all (isFirst ▸ (spells _ _ value inner).1)) closes⟩
            rw [same, found]
            simp
      · obtain ⟨start, item, go⟩ := bind_eq_ok_iff.1 h
        cases go
        obtain ⟨front, found, spells⟩ := skip_item_eq_ok item
        cases goes with
        | value value closes =>
          cases closes with
          | one inner closes =>
            obtain rfl := eq_false_of_ne_true isFirst
            refine ⟨_, ?_, .one (.blanks all (spells _ _ value inner).2) closes⟩
            rw [same, found, comma]
            simp

/-- What has been passed over is a value, and then all that closes the open containers. -/
theorem within_eq_ok {fuel : Nat} {stack : List Bracket} (h : within fuel stack unread = .ok rest) :
    ∃ text more, unread = text ++ (more ++ rest) ∧ Spells .value text ∧
      Closes false stack more := by
  induction fuel generalizing stack unread with
  | zero => cases h
  | succ fuel ih =>
    rw [within] at h
    obtain ⟨blanks, same, all⟩ := exists_blanks unread
    split at h
    · cases h
    · rename_i b behind begins
      rw [begins] at same
      have goesOn {remaining : List Bracket} {start : List UInt8}
          (h : (if remaining.isEmpty then .ok start else within fuel remaining start) = .ok rest) :
          ∃ left, start = left ++ rest ∧ GoesOn remaining left := by
        cases remaining with
        | nil =>
          cases h
          exact ⟨[], rfl, .stop⟩
        | cons bracket outer =>
          obtain ⟨text, more, rfl, value, closes⟩ := ih h
          exact ⟨text ++ more, (List.append_assoc ..).symm, .value value closes⟩
      split at h
      · rename_i bracket opened
        obtain ⟨⟨remaining, start⟩, settled, go⟩ := bind_eq_ok_iff.1 h
        obtain ⟨left, rfl, goes⟩ := goesOn go
        obtain ⟨text, rfl, closes⟩ := settle_closes settled goes
        cases closes with
        | one inner closes =>
          refine ⟨_, _, ?_, .blanks all (spells_opening opened inner), closes⟩
          simp [same]
      · obtain ⟨after, scalar, go⟩ := bind_eq_ok_iff.1 h
        obtain ⟨⟨remaining, start⟩, settled, go⟩ := bind_eq_ok_iff.1 go
        obtain ⟨left, rfl, goes⟩ := goesOn go
        obtain ⟨more, rfl, closes⟩ := settle_closes settled goes
        obtain ⟨text, rfl, spells⟩ := skip_scalar_eq_ok scalar
        refine ⟨_, more, ?_, .blanks all spells, closes⟩
        simp [same]

/-- What has been passed over is a value by the grammar. -/
theorem skip_value_eq_ok (h : Skip.value unread = .ok rest) :
    ∃ text, unread = text ++ rest ∧ Spells .value text := by
  obtain ⟨text, more, same, value, closes⟩ := within_eq_ok h
  cases closes
  exact ⟨text, same, value⟩

end WidgetBindings.Json
