import WidgetBindings.Proofs.Json.Members

/-!
# A value is read from its own bytes

Whatever is read as a value is one by the grammar, and its bytes are read in the same way wherever
they stand (`local_value`).
-/

namespace WidgetBindings.Json.Read

variable {α σ : Type} {unread rest : List UInt8}

theorem scalar_own {b : UInt8} {v : Json} (h : scalar b unread = .ok (v, rest)) :
    ∃ text, unread = text ++ rest ∧ Spells .value (b :: text) ∧
      ∀ others, Ended others → scalar b (text ++ others) = .ok (v, others) := by
  unfold scalar at h
  split_ifs at h with isNull isTrue isFalse minus digit quote
  · obtain ⟨_, found, go⟩ := bind_eq_ok_iff.1 h
    cases go
    refine ⟨_, word_eq_ok_iff.1 found, .word (isNull ▸ by decide), fun others _ => ?_⟩
    rw [scalar, if_pos isNull]
    exact bind_eq_ok_iff.2 ⟨others, word_eq_ok_iff.2 rfl, rfl⟩
  · obtain ⟨_, found, go⟩ := bind_eq_ok_iff.1 h
    cases go
    refine ⟨_, word_eq_ok_iff.1 found, .word (isTrue ▸ by decide), fun others _ => ?_⟩
    rw [scalar, if_neg isNull, if_pos isTrue]
    exact bind_eq_ok_iff.2 ⟨others, word_eq_ok_iff.2 rfl, rfl⟩
  · obtain ⟨_, found, go⟩ := bind_eq_ok_iff.1 h
    cases go
    refine ⟨_, word_eq_ok_iff.1 found, .word (isFalse ▸ by decide), fun others _ => ?_⟩
    rw [scalar, if_neg isNull, if_neg isTrue, if_pos isFalse]
    exact bind_eq_ok_iff.2 ⟨others, word_eq_ok_iff.2 rfl, rfl⟩
  · obtain ⟨_, found, go⟩ := bind_eq_ok_iff.1 h
    cases go
    obtain ⟨text, rfl, magnitude, again⟩ := number_eq_ok_own found
    refine ⟨text, rfl, minus ▸ .number (.negative magnitude), fun others ended => ?_⟩
    rw [scalar, if_neg isNull, if_neg isTrue, if_neg isFalse, if_pos minus]
    exact bind_eq_ok_iff.2 ⟨_, again others ended, rfl⟩
  · obtain ⟨_, found, go⟩ := bind_eq_ok_iff.1 h
    cases go
    obtain ⟨text, same, magnitude, again⟩ := number_eq_ok_own found
    obtain ⟨c, text, rfl, _⟩ := magnitude.exists_cons
    cases same
    refine ⟨text, rfl, .number (.positive magnitude), fun others ended => ?_⟩
    rw [scalar, if_neg isNull, if_neg isTrue, if_neg isFalse, if_neg minus, if_pos digit]
    exact bind_eq_ok_iff.2 ⟨_, again others ended, rfl⟩
  · obtain ⟨_, found, go⟩ := bind_eq_ok_iff.1 h
    cases go
    obtain ⟨text, rfl, string, again⟩ := string_eq_ok_own found
    refine ⟨text, rfl, quote ▸ .string string, fun others _ => ?_⟩
    rw [scalar, if_neg isNull, if_neg isTrue, if_neg isFalse, if_neg minus, if_neg digit,
      if_pos quote]
    exact bind_eq_ok_iff.2 ⟨_, again others, rfl⟩

theorem value_skipBlanks (depth : Nat) (unread : List UInt8) :
    value depth (skipBlanks unread) = value depth unread := by
  rw [value.eq_def, value.eq_def, skipBlanks_skipBlanks]

theorem Items.blank {read : List UInt8 → Except Fault (α × List UInt8)} {blanks : List UInt8}
    {first : Bool} {items : List α} (blank : Blank blanks)
    (h : Items read first unread items rest) : Items read first (blanks ++ unread) items rest := by
  have same : nextElement first (blanks ++ unread) = nextElement first unread := by
    rw [nextElement, nextElement, skipBlanks_append blank]
  cases h with
  | stop last => exact .stop (same.trans last)
  | next more item others => exact .next (same.trans more) item others

theorem nextElement_value (spells : Spells .value unread) (others : List UInt8) :
    nextElement true (unread ++ others) = .ok (true, skipBlanks (unread ++ others)) := by
  obtain ⟨b, found, begins, apart⟩ := spells.begins others
  rw [nextElement, begins]
  simp only [if_neg apart, if_true]

theorem nextElement_comma {blanks : List UInt8} (blank : Blank blanks)
    (spells : Spells .value unread) (others : List UInt8) :
    nextElement false (44 :: (blanks ++ (unread ++ others))) =
      .ok (true, skipBlanks (unread ++ others)) := by
  obtain ⟨b, found, begins, apart⟩ := spells.begins others
  rw [nextElement, skipBlanks_cons rfl]
  simp only [skipBlanks_append blank, begins, if_neg apart]
  rfl

/-- The items of a list are read one after the other, each from its own bytes. -/
theorem Items.own {depth : Nat} (h : Local (value depth)) {first : Bool} {between : List UInt8}
    {items : List Json} (each : Items (value depth) first unread items between)
    (closed : closeList between = .ok rest) :
    ∃ text, unread = text ++ rest ∧ Spells (.items first) text ∧
      ∀ others, Items (value depth) first (text ++ others) items (93 :: others) := by
  induction each with
  | @stop first unread between last =>
    obtain ⟨blanks, same, blank⟩ := exists_blanks unread
    have closing : skipBlanks unread = 93 :: rest := by
      obtain ⟨_, rfl⟩ | ⟨more, _⟩ | ⟨more, _⟩ := nextElement_eq_ok last
      · rw [← closeList_eq_ok closed, skipBlanks_skipBlanks]
      · cases more
      · cases more
    refine ⟨blanks ++ [93], ?_, .blanks blank (.listEnd first), fun others => ?_⟩
    · rw [same, closing, List.append_assoc, List.singleton_append]
    · rw [List.append_assoc]
      exact .blank blank (.stop rfl)
  | @next first unread found behind between a items more item _ ih =>
    obtain ⟨blanks, same, blank⟩ := exists_blanks unread
    obtain ⟨text, rfl, spells, again⟩ := h.own item
    obtain ⟨further, rfl, spells', others⟩ := ih closed
    have reads (rest : List UInt8) :
        value depth (skipBlanks (text ++ (further ++ rest))) = .ok (a, further ++ rest) := by
      rw [value_skipBlanks]
      exact again _ (spells'.ended (.inl rfl) rest)
    obtain ⟨more, _⟩ | ⟨_, rfl, begins⟩ | ⟨_, rfl, behind, comma, begins⟩ := nextElement_eq_ok more
    · cases more
    · refine ⟨blanks ++ (text ++ further), ?_, .blanks blank (.item spells spells'),
        fun rest => ?_⟩
      · rw [same, begins]
        simp only [List.append_assoc]
      · rw [List.append_assoc, List.append_assoc]
        exact .blank blank (.next (nextElement_value spells _) (reads rest) (others rest))
    · obtain ⟨spaces, same', space⟩ := exists_blanks behind
      refine ⟨blanks ++ 44 :: ((spaces ++ text) ++ further), ?_,
        .blanks blank (.nextItem (.blanks space spells) spells'), fun rest => ?_⟩
      · rw [same, comma, same', begins]
        simp only [List.append_assoc, List.cons_append]
      · rw [List.append_assoc, List.cons_append, List.append_assoc, List.append_assoc]
        exact .blank blank (.next (nextElement_comma space spells _) (reads rest) (others rest))

/-! ## Members -/

theorem localStep_keyed {read : List UInt8 → Except Fault (α × List UInt8)}
    (h : Local read) (set : σ → String → α → σ) : LocalStep (keyed read set) :=
  fun state name => afterColon_inside (h.map (set state name))

/-! ## Values -/

theorem value_own {depth : Nat} (inner : ∀ d < depth, Local (value d)) {v : Json}
    (h : value depth unread = .ok (v, rest)) :
    ∃ text, unread = text ++ rest ∧ Spells .value text ∧
      ∀ others, Ended others → value depth (text ++ others) = .ok (v, others) := by
  obtain ⟨blanks, same, blank⟩ := exists_blanks unread
  obtain ⟨b, inside, begins, ⟨rfl, depth, items, between, rfl, rfl, each, closed⟩ |
    ⟨rfl, depth, fields, rfl, rfl, read⟩ | ⟨noList, noObject, scalar⟩⟩ := value_eq_ok h
  · obtain ⟨text, rfl, spells, again⟩ := each.own (inner depth (Nat.lt_succ_self _)) closed
    refine ⟨blanks ++ 91 :: text, ?_, .blanks blank (.list spells), fun others _ => ?_⟩
    · rw [same, begins, List.append_assoc, List.cons_append]
    · refine value_eq_array_iff.2 ⟨depth, text ++ others, _, rfl, ?_, again others, rfl⟩
      rw [List.append_assoc, skipBlanks_append blank, List.cons_append, skipBlanks_cons rfl]
  · have step := localStep_keyed (inner depth (Nat.lt_succ_self _))
      fun (fields : List (String × Json)) key v => setMember key v fields
    obtain ⟨ms, text, rfl, writes⟩ := exists_members step read
    obtain ⟨folds, _⟩ := (object_eq_ok_iff step writes rest).1 read
    refine ⟨blanks ++ 123 :: text, ?_, .blanks blank (.object writes.spells), fun others _ => ?_⟩
    · rw [same, begins, List.append_assoc, List.cons_append]
    · rw [value, List.append_assoc, skipBlanks_append blank, List.cons_append, skipBlanks_cons rfl]
      exact bind_eq_ok_iff.2 ⟨_, (object_eq_ok_iff step writes others).2 ⟨folds, rfl⟩, rfl⟩
  · obtain ⟨text, rfl, spells, again⟩ := scalar_own scalar
    refine ⟨blanks ++ b :: text, ?_, .blanks blank spells, fun others ended => ?_⟩
    · rw [same, begins, List.append_assoc, List.cons_append]
    · have solid := isBlankByte_of_skipBlanks begins
      rw [value.eq_def, List.append_assoc, skipBlanks_append blank, List.cons_append,
        skipBlanks_cons solid]
      simp only [if_neg noList, if_neg noObject]
      exact again others ended

theorem append_blanks {read : List UInt8 → Except Fault (α × List UInt8)}
    (same : ∀ unread, read (skipBlanks unread) = read unread) {blanks : List UInt8}
    (blank : Blank blanks) (unread : List UInt8) : read (blanks ++ unread) = read unread := by
  rw [← same, skipBlanks_append blank, same]

/-- Whatever is read as a value is read from the bytes of a value, wherever they stand. -/
theorem local_value (depth : Nat) : Local (value depth) := by
  induction depth using Nat.strong_induction_on with
  | _ depth ih =>
    exact ⟨fun blank _ => append_blanks (value_skipBlanks depth) blank _, value_own ih⟩

/-- A reader that expects a kind of value takes the bytes of a value if it gets one. -/
theorem local_of_iff {depth : Nat} {read : List UInt8 → Except Fault (α × List UInt8)}
    {toJson : α → Json} (same : ∀ unread, read (skipBlanks unread) = read unread)
    (iff : ∀ {unread a rest}, read unread = .ok (a, rest) ↔
      value depth unread = .ok (toJson a, rest)) : Local read := by
  refine ⟨fun blank _ => append_blanks same blank _, fun h => ?_⟩
  obtain ⟨text, rfl, spells, again⟩ := (local_value depth).own (iff.1 h)
  exact ⟨text, rfl, spells, fun others ended => iff.2 (again others ended)⟩

/-! ## Members of records -/

theorem local_skip (state : σ) :
    Local (fun unread => do .ok (state, ← Skip.value unread)) := by
  refine ⟨fun {blanks value} blank spells => ?_, fun h => ?_⟩
  · have whole : Skip.value (blanks ++ value ++ []) = .ok [] :=
      skip_value_of_spells (.blanks blank spells) ended_nil
    have alone : Skip.value (value ++ []) = .ok [] := skip_value_of_spells spells ended_nil
    rw [List.append_nil] at whole alone
    rw [whole, alone]
  · obtain ⟨_, passed, go⟩ := bind_eq_ok_iff.1 h
    cases go
    obtain ⟨text, rfl, spells⟩ := skip_value_eq_ok passed
    refine ⟨text, rfl, spells, fun others ended => ?_⟩
    rw [skip_value_of_spells spells ended]
    rfl

theorem afterColon_foreign (state : σ) : AfterColon (foreign state) :=
  afterColon_inside (local_skip state)

theorem afterColon_once {read : List UInt8 → Except Fault (α × List UInt8)}
    (h : Local read) (name : String) (seen : Option α) (set : α → σ) :
    AfterColon (once name seen read set) := by
  by_cases again : seen.isSome
  · apply afterColon_never
    intro unread found refused
    rw [once, if_pos again] at refused
    cases refused
  · refine ⟨_, h.map set, fun unread found => ?_⟩
    rw [once, if_neg again]
    exact inside_eq_ok_iff

end WidgetBindings.Json.Read
