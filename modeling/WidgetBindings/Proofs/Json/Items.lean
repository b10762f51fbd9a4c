import WidgetBindings.Proofs.Json.Spans

/-!
# Lists item by item

Readers of lists differ in what they do with each item. `Items` says which items there are, whatever
is done with them. So a list that is expected to hold texts can be compared with a value that
happens to be a list (`listOf_eq_ok_iff`, `value_eq_array_iff`).
-/

namespace WidgetBindings.Json.Read

variable {α β : Type} {unread rest : List UInt8}

/-- These items are read one after the other, up to the closing bracket of a list. -/
inductive Items (read : List UInt8 → Except Fault (α × List UInt8)) :
    (first : Bool) → List UInt8 → List α → List UInt8 → Prop
  | stop {first : Bool} {unread rest : List UInt8} :
      nextElement first unread = .ok (false, rest) → Items read first unread [] rest
  | next {first : Bool} {unread found behind rest : List UInt8} {a : α} {items : List α} :
      nextElement first unread = .ok (true, found) → read found = .ok (a, behind) →
      Items read false behind items rest → Items read first unread (a :: items) rest

theorem Items.map {read : List UInt8 → Except Fault (α × List UInt8)}
    {readAs : List UInt8 → Except Fault (β × List UInt8)} {f : α → β}
    (same : ∀ unread a rest, read unread = .ok (a, rest) ↔ readAs unread = .ok (f a, rest))
    {first : Bool} {items : List α} :
    Items read first unread items rest ↔ Items readAs first unread (items.map f) rest := by
  constructor
  · intro h
    induction h with
    | stop last => exact .stop last
    | next more item _ ih => exact .next more ((same ..).1 item) ih
  · intro h
    induction items generalizing first unread with
    | nil =>
      cases h with
      | stop last => exact .stop last
    | cons a items ih =>
      cases h with
      | next more item others => exact .next more ((same ..).2 item) (ih others)

/-! ## Progress -/

theorem length_skipBlanks_le (unread : List UInt8) : (skipBlanks unread).length ≤ unread.length :=
  List.length_dropWhile_le ..

theorem nextElement_length_le {first more : Bool} {found : List UInt8}
    (h : nextElement first unread = .ok (more, found)) : found.length ≤ unread.length := by
  have blanks := length_skipBlanks_le unread
  obtain ⟨_, rfl⟩ | ⟨_, _, rfl⟩ | ⟨_, _, behind, comma, rfl⟩ := nextElement_eq_ok h
  · exact blanks
  · exact blanks
  · have := length_skipBlanks_le behind
    rw [comma, List.length_cons] at blanks
    omega

/-- A reader takes some bytes. -/
def Progresses (read : List UInt8 → Except Fault (α × List UInt8)) : Prop :=
  ∀ unread a rest, read unread = .ok (a, rest) → rest.length < unread.length

theorem value_progresses (depth : Nat) : Progresses (value depth) :=
  fun _ _ _ h => (spans_value h).length_lt fun _ _ name => name.checks.length_le

/-! ## Collected items -/

/-- A step adds what a reader reads to the items before. -/
def Collects (read : List UInt8 → Except Fault (α × List UInt8))
    (step : List α → List UInt8 → Except Fault (List α × List UInt8)) : Prop :=
  ∀ before unread after rest, step before unread = .ok (after, rest) ↔
    ∃ a, read unread = .ok (a, rest) ∧ after = before ++ [a]

theorem collects_appended (read : List UInt8 → Except Fault (α × List UInt8)) :
    Collects read (fun before unread => do
      let (item, unread) ← read unread
      .ok (before ++ [item], unread)) := by
  intro before unread after rest
  constructor
  · intro h
    obtain ⟨⟨a, _⟩, item, h⟩ := bind_eq_ok_iff.1 h
    cases h
    exact ⟨a, item, rfl⟩
  · rintro ⟨a, item, rfl⟩
    exact bind_eq_ok_iff.2 ⟨_, item, rfl⟩

section

variable {read : List UInt8 → Except Fault (α × List UInt8)}
  {step : List α → List UInt8 → Except Fault (List α × List UInt8)}

theorem items_of_elements (collects : Collects read step)
    {fuel : Nat} {first : Bool} {before after : List α}
    (h : elements step fuel first before unread = .ok (after, rest)) :
    ∃ items, after = before ++ items ∧ Items read first unread items rest := by
  induction fuel generalizing first before unread with
  | zero => cases h
  | succ fuel ih =>
    obtain ⟨⟨more, found⟩, next, h⟩ := bind_eq_ok_iff.1 h
    cases more with
    | false =>
      cases h
      exact ⟨[], (List.append_nil _).symm, .stop next⟩
    | true =>
      obtain ⟨⟨_, behind⟩, item, h⟩ := bind_eq_ok_iff.1 h
      obtain ⟨a, read, rfl⟩ := (collects ..).1 item
      obtain ⟨items, rfl, others⟩ := ih h
      exact ⟨a :: items, by simp, .next next read others⟩

theorem elements_of_items (collects : Collects read step)
    (progresses : Progresses read) {fuel : Nat} {first : Bool} {items : List α}
    (h : Items read first unread items rest) (enough : unread.length < fuel) (before : List α) :
    elements step fuel first before unread = .ok (before ++ items, rest) := by
  induction h generalizing fuel before with
  | stop last =>
    obtain ⟨fuel, rfl⟩ := Nat.exists_eq_succ_of_ne_zero (Nat.ne_zero_of_lt enough)
    rw [elements, last, List.append_nil]
    rfl
  | next more item _ ih =>
    obtain ⟨fuel, rfl⟩ := Nat.exists_eq_succ_of_ne_zero (Nat.ne_zero_of_lt enough)
    have taken := progresses _ _ _ item
    have found := nextElement_length_le more
    rw [elements_next fuel more ((collects ..).2 ⟨_, item, rfl⟩), ih (by omega), List.append_assoc]
    rfl

theorem list_eq_ok_iff (collects : Collects read step)
    (progresses : Progresses read) {items : List α} :
    list step [] unread = .ok (items, rest) ↔
      ∃ between, Items read true unread items between ∧ closeList between = .ok rest := by
  constructor
  · intro h
    obtain ⟨between, all, closed⟩ := leaveList_eq_ok h
    obtain ⟨_, rfl, items⟩ := items_of_elements collects (inside_eq_ok all)
    exact ⟨between, items, closed⟩
  · rintro ⟨between, items, closed⟩
    rw [list, elements_of_items collects progresses items (Nat.lt_succ_self _)]
    simp only [inside, leaveList, closed, bind, Except.bind, List.nil_append]

end

theorem wrongType_ne_ok {expected : String} {b : UInt8} (a : α) :
    wrongType expected b unread ≠ .ok a := by
  unfold wrongType
  split
  · exact fun h => by cases h
  · split
    · exact fun h => by cases h
    · intro h
      obtain ⟨_, _, h⟩ := bind_eq_ok_iff.1 h
      cases h

theorem listOf_eq_ok_iff {read : Nat → List UInt8 → Except Fault (α × List UInt8)}
    (progresses : ∀ depth, Progresses (read depth)) {depth : Nat} {items : List α} :
    listOf depth read unread = .ok (items, rest) ↔
      ∃ inner inside between, depth = inner + 1 ∧ skipBlanks unread = 91 :: inside ∧
        Items (read inner) true inside items between ∧ closeList between = .ok rest := by
  constructor
  · intro h
    unfold listOf at h
    split at h
    · cases h
    · rename_i blanks
      split at h
      · rename_i bracket
        split at h
        · cases h
        · obtain ⟨between, items, closed⟩ :=
            (list_eq_ok_iff (collects_appended _) (progresses _)).1 h
          exact ⟨_, _, between, rfl, bracket ▸ blanks, items, closed⟩
      · exact absurd h (wrongType_ne_ok _)
  · rintro ⟨inner, inside, between, rfl, bracket, items, closed⟩
    rw [listOf, bracket]
    exact (list_eq_ok_iff (collects_appended _) (progresses inner)).2 ⟨between, items, closed⟩

/-! ## Values by their first byte -/

theorem value_eq_ok {depth : Nat} {v : Json} (h : value depth unread = .ok (v, rest)) :
    ∃ b inside, skipBlanks unread = b :: inside ∧
      ((b = 91 ∧ ∃ inner items between, depth = inner + 1 ∧ v = .array items ∧
        Items (value inner) true inside items between ∧ closeList between = .ok rest) ∨
      (b = 123 ∧ ∃ inner fields, depth = inner + 1 ∧ v = .object fields ∧
        object (keyed (value inner) fun fields key v => setMember key v fields) [] inside =
          .ok (fields, rest)) ∨
      (b ≠ 91 ∧ b ≠ 123 ∧ scalar b inside = .ok (v, rest))) := by
  unfold value at h
  split at h
  · cases h
  · rename_i b inside blanks
    refine ⟨b, inside, blanks, ?_⟩
    split at h
    · rename_i bracket
      split at h
      · cases h
      · obtain ⟨_, read, h⟩ := bind_eq_ok_iff.1 h
        cases h
        obtain ⟨between, items, closed⟩ :=
          (list_eq_ok_iff (collects_appended _) (value_progresses _)).1 read
        exact .inl ⟨bracket, _, _, between, rfl, rfl, items, closed⟩
    · rename_i noList
      split at h
      · rename_i bracket
        split at h
        · cases h
        · obtain ⟨_, read, h⟩ := bind_eq_ok_iff.1 h
          cases h
          exact .inr (.inl ⟨bracket, _, _, rfl, rfl, read⟩)
      · rename_i noObject
        exact .inr (.inr ⟨noList, noObject, h⟩)

theorem scalar_ne_array {b : UInt8} (items : List Json) :
    scalar b unread ≠ .ok (.array items, rest) := by
  intro h
  unfold scalar at h
  split_ifs at h <;> obtain ⟨_, _, h⟩ := bind_eq_ok_iff.1 h <;> cases h

theorem scalar_ne_object {b : UInt8} (fields : List (String × Json)) :
    scalar b unread ≠ .ok (.object fields, rest) := by
  intro h
  unfold scalar at h
  split_ifs at h <;> obtain ⟨_, _, h⟩ := bind_eq_ok_iff.1 h <;> cases h

theorem scalar_eq_string {b : UInt8} {s : String} (h : scalar b unread = .ok (.string s, rest)) :
    b = 34 ∧ string unread = .ok (s, rest) := by
  unfold scalar at h
  split_ifs at h with _ _ _ _ _ quote <;> obtain ⟨_, found, h⟩ := bind_eq_ok_iff.1 h <;> cases h
  exact ⟨quote, found⟩

theorem value_eq_array_iff {depth : Nat} {items : List Json} :
    value depth unread = .ok (.array items, rest) ↔
      ∃ inner inside between, depth = inner + 1 ∧ skipBlanks unread = 91 :: inside ∧
        Items (value inner) true inside items between ∧ closeList between = .ok rest := by
  constructor
  · intro h
    obtain ⟨b, inside, blanks, ⟨rfl, inner, _, between, rfl, same, items, closed⟩ |
      ⟨rfl, inner, fields, rfl, same, _⟩ | ⟨_, _, scalar⟩⟩ := value_eq_ok h
    · cases same
      exact ⟨inner, inside, between, rfl, blanks, items, closed⟩
    · cases same
    · exact absurd scalar (scalar_ne_array items)
  · rintro ⟨inner, inside, between, rfl, bracket, items, closed⟩
    rw [value, bracket]
    exact bind_eq_ok_iff.2 ⟨_, (list_eq_ok_iff (collects_appended _) (value_progresses inner)).2
      ⟨between, items, closed⟩, rfl⟩

/-- A text is read where one is expected if and only if it is read as a value. -/
theorem text_eq_ok_iff {expected : String} {depth : Nat} {s : String} :
    text expected unread = .ok (s, rest) ↔ value depth unread = .ok (.string s, rest) := by
  constructor
  · intro h
    unfold text at h
    split at h
    · cases h
    · rename_i blanks
      split at h
      · rename_i quote
        rw [value.eq_def, blanks, quote]
        exact bind_eq_ok_iff.2 ⟨_, h, rfl⟩
      · exact absurd h (wrongType_ne_ok _)
  · intro h
    obtain ⟨b, inside, blanks, ⟨_, _, _, _, _, same, _⟩ | ⟨_, _, _, _, same, _⟩ |
      ⟨_, _, scalar⟩⟩ := value_eq_ok h
    · cases same
    · cases same
    · obtain ⟨rfl, found⟩ := scalar_eq_string scalar
      rw [text, blanks]
      exact found

/-- An object is read where one is expected if and only if it is read as a value. -/
theorem mapOf_eq_ok_iff {depth : Nat} {fields : List (String × Json)} :
    mapOf depth value (fun fields key v => setMember key v fields) [] unread = .ok (fields, rest) ↔
      value depth unread = .ok (.object fields, rest) := by
  constructor
  · intro h
    unfold mapOf at h
    split at h
    · cases h
    · rename_i blanks
      split at h
      · rename_i bracket
        split at h
        · cases h
        · rw [value, blanks, bracket]
          exact bind_eq_ok_iff.2 ⟨_, h, rfl⟩
      · exact absurd h (wrongType_ne_ok _)
  · intro h
    obtain ⟨b, inside, blanks, ⟨_, _, _, _, _, same, _⟩ | ⟨rfl, inner, _, rfl, same, read⟩ |
      ⟨_, _, scalar⟩⟩ := value_eq_ok h
    · cases same
    · cases same
      rw [mapOf, blanks]
      exact read
    · exact absurd scalar (scalar_ne_object fields)

end WidgetBindings.Json.Read
