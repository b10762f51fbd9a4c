import WidgetBindings.Proofs.Json.Skipping

/-!
# Where a value ends

Each value is passed over to its end and no further, however deeply containers stand inside one
another (`skip_value_of_spells`). What follows it must not be able to go on with it, as a digit
would with a number. So the end of a value can only be at one place (`Spells.unique`).
-/

namespace WidgetBindings.Json

open Read Skip

variable {unread text rest : List UInt8}

/-- What comes after the open containers have been closed as far as they can be. -/
def Skip.proceed (fuel : Nat) (settled : List Bracket × List UInt8) :
    Except Fault (List UInt8) :=
  if settled.1.isEmpty then .ok settled.2 else within fuel settled.1 settled.2

theorem within_skipBlanks (fuel : Nat) (stack : List Bracket) (unread : List UInt8) :
    within (fuel + 1) stack (skipBlanks unread) = within (fuel + 1) stack unread := by
  rw [within, within, skipBlanks_skipBlanks]

theorem settle_skipBlanks (bracket : Bracket) (outer : List Bracket) (first : Bool)
    (unread : List UInt8) :
    settle (bracket :: outer) first (skipBlanks unread) =
      settle (bracket :: outer) first unread := by
  rw [settle, settle, skipBlanks_skipBlanks]

theorem key_skipBlanks (unread : List UInt8) : Skip.key (skipBlanks unread) = Skip.key unread := by
  rw [Skip.key, Skip.key, skipBlanks_skipBlanks]

/-- From here on a value is passed over, and then it is settled what comes after it. With those
inside it fewer values are begun than given. -/
def PassesTo (start rest : List UInt8) (most : Nat) : Prop :=
  ∃ n < most, ∀ fuel stack, within (fuel + n + 1) stack start =
    settle stack false rest >>= proceed fuel

/-- From here on a container is left, with what it still holds passed over. -/
def Leaves (bracket : Bracket) (first : Bool) (unread rest : List UInt8) (most : Nat) : Prop :=
  ∃ n ≤ most, ∀ fuel outer, settle (bracket :: outer) first unread >>= proceed (fuel + n) =
    settle outer false rest >>= proceed fuel

/-- The parts of a text are passed over to their ends. -/
def PassesOver (rest : List UInt8) : Shape → List UInt8 → Prop
  | .value, text => PassesTo (text ++ rest) rest text.length
  | .items first, text => Leaves .list first (text ++ rest) rest text.length
  | .members first, text => Leaves .object first (text ++ rest) rest text.length
  | .member, text => ∃ start, Skip.key (text ++ rest) = .ok start ∧
      PassesTo start rest text.length
  | .colon, text => ∃ start, skipBlanks (text ++ rest) = 58 :: start ∧
      PassesTo start rest text.length

section

variable {start : List UInt8} {most more : Nat} {bracket : Bracket}

theorem PassesTo.mono (h : PassesTo start rest most) (le : most ≤ more) :
    PassesTo start rest more := by
  obtain ⟨n, lt, passes⟩ := h
  exact ⟨n, Nat.lt_of_lt_of_le lt le, passes⟩

theorem passesTo_skipBlanks :
    PassesTo (skipBlanks start) rest most ↔ PassesTo start rest most := by
  unfold PassesTo
  simp only [within_skipBlanks]

theorem passesTo_scalar {b : UInt8} (blank : isBlankByte b = false)
    (opening : Bracket.opening? b = none) (scalar : Skip.scalar b unread = .ok rest)
    (some : 0 < most) : PassesTo (b :: unread) rest most := by
  refine ⟨0, some, fun fuel stack => ?_⟩
  rw [within, skipBlanks_cons blank]
  simp only [opening, scalar]
  rfl

theorem passesTo_container {b : UInt8} (blank : isBlankByte b = false)
    (opening : Bracket.opening? b = some bracket) (leaves : Leaves bracket true unread rest most) :
    PassesTo (b :: unread) rest (most + 1) := by
  obtain ⟨n, le, leaves⟩ := leaves
  refine ⟨n, Nat.lt_succ_of_le le, fun fuel stack => ?_⟩
  rw [within, skipBlanks_cons blank]
  simp only [opening]
  exact leaves fuel stack

theorem leaves_end (bracket : Bracket) (first : Bool) (rest : List UInt8) :
    Leaves bracket first (bracket.closing :: rest) rest most := by
  refine ⟨0, Nat.zero_le _, fun fuel outer => ?_⟩
  have solid : isBlankByte bracket.closing = false := by
    cases bracket <;> rfl
  rw [settle, skipBlanks_cons solid]
  simp only [if_true]
  rfl

theorem Leaves.mono {first : Bool} (h : Leaves bracket first unread rest most)
    (le : most ≤ more) : Leaves bracket first unread rest more := by
  obtain ⟨n, below, leaves⟩ := h
  exact ⟨n, Nat.le_trans below le, leaves⟩

theorem leaves_skipBlanks {first : Bool} :
    Leaves bracket first (skipBlanks unread) rest most ↔ Leaves bracket first unread rest most := by
  unfold Leaves
  simp only [settle_skipBlanks]

/-- The first value of a container is passed over, and then the others. -/
theorem leaves_first {b : UInt8} {found between : List UInt8}
    (begins : skipBlanks unread = b :: found) (apart : b ≠ bracket.closing)
    (item : Skip.item bracket (b :: found) = .ok start) (value : PassesTo start between most)
    (others : Leaves bracket false between rest more) :
    Leaves bracket true unread rest (most + more) := by
  obtain ⟨m, lt, passes⟩ := value
  obtain ⟨n, le, leaves⟩ := others
  refine ⟨n + m + 1, by omega, fun fuel outer => ?_⟩
  have next : settle (bracket :: outer) true unread = .ok (bracket :: outer, start) := by
    rw [settle, begins]
    simp only [if_neg apart, if_true, item]
    rfl
  rw [next, ← leaves fuel outer, ← passes (fuel + n) (bracket :: outer),
    show fuel + (n + m + 1) = fuel + n + m + 1 by omega]
  rfl

theorem leaves_next {between : List UInt8} (item : Skip.item bracket unread = .ok start)
    (value : PassesTo start between most) (others : Leaves bracket false between rest more) :
    Leaves bracket false (44 :: unread) rest (most + more) := by
  obtain ⟨m, lt, passes⟩ := value
  obtain ⟨n, le, leaves⟩ := others
  refine ⟨n + m + 1, by omega, fun fuel outer => ?_⟩
  have next : settle (bracket :: outer) false (44 :: unread) = .ok (bracket :: outer, start) := by
    rw [settle, skipBlanks_cons rfl]
    simp only [if_neg (by cases bracket <;> decide : ¬ (44 : UInt8) = bracket.closing),
      Bool.false_eq_true, if_false, if_true, item]
    rfl
  rw [next, ← leaves fuel outer, ← passes (fuel + n) (bracket :: outer),
    show fuel + (n + m + 1) = fuel + n + m + 1 by omega]
  rfl

end

theorem skipBlanks_blank {b : UInt8} (blank : isBlankByte b) (unread : List UInt8) :
    skipBlanks (b :: unread) = skipBlanks unread :=
  List.dropWhile_cons_of_pos blank

theorem passesOver_blank {shape : Shape} {b : UInt8} (blank : isBlankByte b)
    (h : PassesOver rest shape text) : PassesOver rest shape (b :: text) := by
  have same : skipBlanks (b :: (text ++ rest)) = skipBlanks (text ++ rest) :=
    skipBlanks_blank blank _
  have le : text.length ≤ (b :: text).length := Nat.le_succ _
  cases shape with
  | value =>
    have passes : PassesTo (text ++ rest) rest text.length := h
    rw [← passesTo_skipBlanks, ← same, passesTo_skipBlanks] at passes
    exact passes.mono le
  | items first =>
    have leaves : Leaves .list first (text ++ rest) rest text.length := h
    rw [← leaves_skipBlanks, ← same, leaves_skipBlanks] at leaves
    exact leaves.mono le
  | members first =>
    have leaves : Leaves .object first (text ++ rest) rest text.length := h
    rw [← leaves_skipBlanks, ← same, leaves_skipBlanks] at leaves
    exact leaves.mono le
  | member =>
    obtain ⟨start, key, passes⟩ := h
    rw [← key_skipBlanks, ← same, key_skipBlanks] at key
    exact ⟨start, key, passes.mono le⟩
  | colon =>
    obtain ⟨start, sign, passes⟩ := h
    exact ⟨start, same.trans sign, passes.mono le⟩

theorem skip_scalar_number {b : UInt8} (digit : isDigit b) (unread : List UInt8) :
    Skip.scalar b unread = Skip.number (b :: unread) := by
  have apart {c : UInt8} (other : isDigit c = false) : b ≠ c := ne_of_isDigit digit other
  rw [Skip.scalar, if_neg (apart rfl), if_neg (apart rfl), if_neg (apart rfl), if_neg (apart rfl),
    if_pos digit]

theorem passesOver_number (h : IsNumber text) (ended : Ended rest) :
    PassesOver rest .value text := by
  cases h with
  | positive magnitude =>
    have passed := skip_number_of_isMagnitude magnitude ended
    obtain ⟨b, more, rfl, digit⟩ := magnitude.exists_cons
    have opening : Bracket.opening? b = none := by
      rw [Bracket.opening?, if_neg (ne_of_isDigit digit rfl), if_neg (ne_of_isDigit digit rfl)]
    exact passesTo_scalar (isBlankByte_of_isDigit digit) opening
      ((skip_scalar_number digit _).trans passed) (Nat.succ_pos _)
  | negative magnitude =>
    exact passesTo_scalar rfl rfl (skip_number_of_isMagnitude magnitude ended) (Nat.succ_pos _)

theorem exists_quote {start : List UInt8} (h : Skip.key unread = .ok start) :
    ∃ behind, skipBlanks unread = 34 :: behind := by
  unfold Skip.key at h
  split at h
  · cases h
  · rename_i behind begins
    split_ifs at h with quote
    exact ⟨behind, quote ▸ begins⟩

/-- Each part of a text is passed over to its end. -/
theorem passesOver {shape : Shape} (h : Spells shape text) {rest : List UInt8}
    (ended : Ended rest) : PassesOver rest shape text := by
  induction h generalizing rest with
  | blank blank _ ih => exact passesOver_blank blank (ih ended)
  | word known =>
    simp only [words, List.mem_cons, List.not_mem_nil, or_false] at known
    obtain rfl | rfl | rfl := known <;> exact passesTo_scalar rfl rfl rfl (by decide)
  | number number => exact passesOver_number number ended
  | @string bytes string =>
    have passed : Skip.string (bytes ++ rest) = .ok rest :=
      skip_string_eq_ok_iff.2 ⟨bytes, rfl, string⟩
    exact passesTo_scalar rfl rfl passed (Nat.succ_pos _)
  | list _ ih => exact passesTo_container rfl rfl (ih ended)
  | object _ ih => exact passesTo_container rfl rfl (ih ended)
  | listEnd first => exact leaves_end .list first rest
  | objectEnd first => exact leaves_end .object first rest
  | @item bytes more value others first next =>
    have passes : PassesTo (bytes ++ (more ++ rest)) (more ++ rest) bytes.length :=
      first (others.ended (.inl rfl) rest)
    obtain ⟨b, found, begins, apart⟩ := value.begins (more ++ rest)
    rw [← passesTo_skipBlanks, begins] at passes
    rw [PassesOver, List.append_assoc, List.length_append]
    exact leaves_first begins apart rfl passes (next ended)
  | @nextItem bytes more value others first next =>
    have passes : PassesTo (bytes ++ (more ++ rest)) (more ++ rest) bytes.length :=
      first (others.ended (.inl rfl) rest)
    have leaves : Leaves .list false (44 :: (bytes ++ (more ++ rest))) rest
        (bytes.length + more.length) := leaves_next rfl passes (next ended)
    rw [PassesOver, List.cons_append, List.append_assoc]
    exact leaves.mono (by simp)
  | @firstMember bytes more member others first next =>
    obtain ⟨start, key, passes⟩ := first (others.ended (.inr rfl) rest)
    obtain ⟨behind, begins⟩ := exists_quote key
    rw [← key_skipBlanks, begins] at key
    rw [PassesOver, List.append_assoc, List.length_append]
    exact leaves_first begins (by decide) key passes (next ended)
  | @nextMember bytes more member others first next =>
    obtain ⟨start, key, passes⟩ := first (others.ended (.inr rfl) rest)
    have leaves : Leaves .object false (44 :: (bytes ++ (more ++ rest))) rest
        (bytes.length + more.length) := leaves_next key passes (next ended)
    rw [PassesOver, List.cons_append, List.append_assoc]
    exact leaves.mono (by simp)
  | @member name bytes string _ ih =>
    obtain ⟨start, sign, passes⟩ := ih ended
    have passed : Skip.string (name ++ (bytes ++ rest)) = .ok (bytes ++ rest) :=
      skip_string_eq_ok_iff.2 ⟨name, rfl, string⟩
    refine ⟨start, ?_, passes.mono (by simp; omega)⟩
    rw [List.cons_append, List.append_assoc, Skip.key, skipBlanks_cons rfl]
    simp only [if_true, passed, bind, Except.bind, sign]
  | colon _ ih => exact ⟨_, skipBlanks_cons rfl _, (ih ended).mono (Nat.le_succ _)⟩

/-- Each value is passed over to its end, however deeply containers stand inside one another. -/
theorem skip_value_of_spells (h : Spells .value text) (ended : Ended rest) :
    Skip.value (text ++ rest) = .ok rest := by
  obtain ⟨n, lt, passes⟩ := passesOver h ended
  obtain ⟨fuel, same⟩ : ∃ fuel, (text ++ rest).length = fuel + n := by
    refine ⟨(text ++ rest).length - n, ?_⟩
    rw [List.length_append]
    omega
  rw [Skip.value, same, passes]
  rfl

/-- The end of a value can only be at one place. -/
theorem Spells.unique {other behind : List UInt8} (h : Spells .value text)
    (h' : Spells .value other) (ended : Ended rest) (ended' : Ended behind)
    (same : text ++ rest = other ++ behind) : text = other ∧ rest = behind := by
  have one := skip_value_of_spells h ended
  rw [same, skip_value_of_spells h' ended'] at one
  cases one
  exact ⟨List.append_cancel_right same, rfl⟩

end WidgetBindings.Json
