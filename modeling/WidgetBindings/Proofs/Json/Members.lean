import WidgetBindings.Proofs.Json.Ends
import WidgetBindings.Proofs.Json.Items

/-!
# Objects member by member

An object is a list of members, each a name and the bytes of a value (`Writes`). Whatever a reader
does with the members, it does it with one after the other, if it takes what it reads of each from
the bytes of that member alone (`LocalStep`). How the members are spelled and what stands around
them does not matter then (`object_eq_ok_iff`). All that stands around their values is well-formed
(`Writes.wellFormedBut`).
-/

namespace WidgetBindings.Json

open Read

variable {α σ : Type} {unread text rest : List UInt8}

theorem isBlankByte_of_skipBlanks {b : UInt8} (h : skipBlanks unread = b :: rest) :
    isBlankByte b = false := by
  have first := List.head?_dropWhile_not isBlankByte unread
  rw [← skipBlanks, h] at first
  exact first

/-! ## Members -/

/-- A member of an object: its name and the bytes of its value. -/
structure Member where
  name : String
  value : List UInt8

/-- The bytes spell the member. Its key is read as its name, whichever escapes it holds. -/
inductive Member.Written (m : Member) : List UInt8 → Prop
  | of {key before after : List UInt8}
      (named : ∀ rest, Read.string (key ++ rest) = .ok (m.name, rest))
      (blank : Blank before) (space : Blank after) (value : Spells .value m.value) :
      m.Written (34 :: (key ++ (before ++ 58 :: (after ++ m.value))))

/-- The bytes spell the members of an object, from its beginning or after a member, through the
closing bracket. -/
inductive Writes : (first : Bool) → List Member → List UInt8 → Prop
  | blank {first : Bool} {ms : List Member} {b : UInt8} {bytes : List UInt8} :
      isBlankByte b → Writes first ms bytes → Writes first ms (b :: bytes)
  | close (first : Bool) : Writes first [] [125]
  | first {m : Member} {ms : List Member} {bytes more : List UInt8} :
      m.Written bytes → Writes false ms more → Writes true (m :: ms) (bytes ++ more)
  | next {m : Member} {ms : List Member} {blanks bytes more : List UInt8} :
      Blank blanks → m.Written bytes → Writes false ms more →
      Writes false (m :: ms) (44 :: (blanks ++ (bytes ++ more)))

theorem Writes.blanks {first : Bool} {ms : List Member} {blanks : List UInt8} (h : Blank blanks)
    (writes : Writes first ms text) : Writes first ms (blanks ++ text) := by
  induction blanks with
  | nil => exact writes
  | cons b blanks ih =>
    obtain ⟨blank, others⟩ := List.forall_mem_cons.1 h
    exact .blank blank (ih others)

theorem Writes.ended {ms : List Member} (h : Writes false ms text) (rest : List UInt8) :
    Ended (text ++ rest) := by
  cases h with
  | blank blank _ => exact ended_blank blank _
  | close | next => exact ended_cons (by decide) _

theorem Member.Written.spells {m : Member} (h : m.Written text) : Spells .member text := by
  cases h with
  | @of key before after named blank space value =>
    have reads := named []
    rw [List.append_nil] at reads
    obtain ⟨bytes, same, string, _⟩ := string_eq_ok_own reads
    rw [List.append_nil] at same
    exact .member (same ▸ string) (.blanks blank (.colon (.blanks space value)))

theorem Blank.wellFormed {blanks : List UInt8} (h : Blank blanks) : Text.WellFormed blanks :=
  Text.wellFormed_of_ascii fun b hb => lt_of_isBlankByte (h b hb)

/-- What stands before the value of a member is well-formed, its key included. -/
theorem Member.Written.exists_front {m : Member} (h : m.Written text) :
    ∃ front, text = front ++ m.value ∧ Text.WellFormed front := by
  cases h with
  | @of key before after named blank space value =>
    have reads := named []
    rw [List.append_nil] at reads
    obtain ⟨bytes, rfl, formed⟩ := Spelled.checks ⟨_, reads⟩
    have sign : Text.WellFormed (58 :: after) := space.wellFormed.cons (by decide)
    refine ⟨34 :: (bytes ++ (before ++ 58 :: after)), by simp, ?_⟩
    exact (formed.append (blank.wellFormed.append sign)).cons (by decide)

theorem Member.Written.length_pos {m : Member} (h : m.Written text) : 0 < text.length := by
  cases h
  exact Nat.succ_pos _

theorem Writes.each {first : Bool} {ms : List Member} (h : Writes first ms text) :
    ∀ m ∈ ms, Spells .value m.value := by
  induction h with
  | blank _ _ ih => exact ih
  | close => exact fun _ h => by cases h
  | first written _ ih | next _ written _ ih =>
    cases written with
    | of _ _ _ value => exact List.forall_mem_cons.2 ⟨value, ih⟩

theorem Writes.spells {first : Bool} {ms : List Member} (h : Writes first ms text) :
    Spells (.members first) text := by
  induction h with
  | blank blank _ ih => exact .blank blank ih
  | close first => exact .objectEnd first
  | first member _ ih => exact .firstMember member.spells ih
  | next blank member _ ih =>
    rw [← List.append_assoc]
    exact .nextMember (.blanks blank member.spells) ih

/-- What stands between the values is well-formed. -/
theorem Writes.wellFormedBut {first : Bool} {ms : List Member} (h : Writes first ms text) :
    Text.WellFormedBut (ms.map (·.value)) text := by
  induction h with
  | blank blank _ ih =>
    have one := Text.wellFormed_nil.cons (lt_of_isBlankByte blank)
    exact one.before ih
  | close => exact .last (Text.wellFormed_nil.cons (by decide))
  | first written _ ih =>
    obtain ⟨front, rfl, formed⟩ := written.exists_front
    rw [List.append_assoc]
    exact .next formed ih
  | next blank written _ ih =>
    obtain ⟨front, rfl, formed⟩ := written.exists_front
    rw [List.append_assoc, ← List.append_assoc, ← List.cons_append]
    exact .next ((blank.wellFormed.append formed).cons (by decide)) ih

/-! ## Readers of values -/

/-- A reader takes the bytes of a value, and what it answers depends on these alone. Blanks before
them do not matter. -/
structure Local (read : List UInt8 → Except Fault (α × List UInt8)) : Prop where
  blanks {blanks value : List UInt8} (blank : Blank blanks) (spells : Spells .value value) :
    read (blanks ++ value) = read value
  own {unread rest : List UInt8} {a : α} (h : read unread = .ok (a, rest)) :
    ∃ text, unread = text ++ rest ∧ Spells .value text ∧
      ∀ others, Ended others → read (text ++ others) = .ok (a, others)

/-- What is read of a value can be read of its bytes by themselves. -/
theorem Local.eq_ok_iff {read : List UInt8 → Except Fault (α × List UInt8)} (h : Local read)
    {value blanks others : List UInt8} {a : α} (spells : Spells .value value)
    (blank : Blank blanks) (ended : Ended others) (ended' : Ended rest) :
    read (blanks ++ (value ++ others)) = .ok (a, rest) ↔
      read value = .ok (a, []) ∧ rest = others := by
  rw [← h.blanks blank spells, ← List.append_assoc]
  constructor
  · intro found
    obtain ⟨text, same, spells', again⟩ := h.own found
    obtain ⟨rfl, rfl⟩ := (Spells.blanks blank spells).unique spells' ended ended' same
    have alone := again [] ended_nil
    rw [List.append_nil] at alone
    exact ⟨alone, rfl⟩
  · rintro ⟨alone, rfl⟩
    obtain ⟨text, same, _, again⟩ := h.own alone
    rw [same, List.append_nil]
    exact again _ ended

/-- What is made of a value that has been read does not matter. -/
theorem Local.map {β : Type} {read : List UInt8 → Except Fault (α × List UInt8)} (h : Local read)
    (f : α → β) : Local (fun unread => do
      let (a, unread) ← read unread
      .ok (f a, unread)) := by
  refine ⟨fun blank spells => by rw [h.blanks blank spells], fun found => ?_⟩
  obtain ⟨⟨a, left⟩, value, go⟩ := bind_eq_ok_iff.1 found
  cases go
  obtain ⟨text, rfl, spells, again⟩ := h.own value
  refine ⟨text, rfl, spells, fun others ended => ?_⟩
  exact bind_eq_ok_iff.2 ⟨_, again others ended, rfl⟩

/-! ## Readers of members -/

/-- What follows a key is a colon, and what follows that is read by a local reader. -/
def AfterColon (read : List UInt8 → Except Trouble (σ × List UInt8)) : Prop :=
  ∃ reader : List UInt8 → Except Fault (σ × List UInt8), Local reader ∧
    ∀ unread found, read unread = .ok found ↔ colon unread >>= reader = .ok found

/-- A step reads each member in this way. -/
def LocalStep (step : σ → String → List UInt8 → Except Trouble (σ × List UInt8)) : Prop :=
  ∀ state name, AfterColon (step state name)

theorem inside_eq_ok_iff {x : Except Fault α} {a : α} : inside x = .ok a ↔ x = .ok a := by
  constructor
  · exact inside_eq_ok
  · rintro rfl
    rfl

theorem afterColon_inside {reader : List UInt8 → Except Fault (σ × List UInt8)}
    (h : Local reader) : AfterColon fun unread => inside (colon unread >>= reader) :=
  ⟨reader, h, fun _ _ => inside_eq_ok_iff⟩

/-- A reader that never gets anything reads nothing after the colon. -/
theorem afterColon_never {read : List UInt8 → Except Trouble (σ × List UInt8)}
    (h : ∀ unread found, read unread ≠ .ok found) : AfterColon read := by
  refine ⟨fun _ => .error (.before .expectedValue []), ⟨fun _ _ => rfl, fun found => ?_⟩,
    fun unread found => ⟨fun read => absurd read (h unread found), fun never => ?_⟩⟩
  · cases found
  · obtain ⟨_, _, never⟩ := bind_eq_ok_iff.1 never
    cases never

theorem colon_blank {before : List UInt8} (h : Blank before) (rest : List UInt8) :
    colon (before ++ 58 :: rest) = .ok rest := by
  rw [colon, skipBlanks_append h, skipBlanks_cons rfl]
  rfl

section

variable {step : σ → String → List UInt8 → Except Trouble (σ × List UInt8)} {state next final : σ}

theorem LocalStep.eq_ok_iff (h : LocalStep step) {m : Member} (spells : Spells .value m.value)
    {before after others : List UInt8} (blank : Blank before) (space : Blank after)
    (ended : Ended others) (ended' : Ended rest) :
    step state m.name (before ++ 58 :: (after ++ (m.value ++ others))) = .ok (next, rest) ↔
      step state m.name (58 :: m.value) = .ok (next, []) ∧ rest = others := by
  obtain ⟨read, isLocal, same⟩ := h state m.name
  rw [same, same, colon_blank blank, colon_cons]
  exact isLocal.eq_ok_iff spells space ended ended'

/-- The members are taken one after the other. -/
inductive Folds (step : σ → String → List UInt8 → Except Trouble (σ × List UInt8)) :
    σ → List Member → σ → Prop
  | nil (state : σ) : Folds step state [] state
  | cons {state next final : σ} {m : Member} {ms : List Member} :
      step state m.name (58 :: m.value) = .ok (next, []) → Folds step next ms final →
      Folds step state (m :: ms) final

theorem nextKey_skipBlanks (first : Bool) (unread : List UInt8) :
    nextKey first (skipBlanks unread) = nextKey first unread := by
  rw [nextKey, nextKey, skipBlanks_skipBlanks]

theorem members_skipBlanks (fuel : Nat) (first : Bool) (state : σ) (unread : List UInt8) :
    members step fuel first state (skipBlanks unread) = members step fuel first state unread := by
  cases fuel with
  | zero => rfl
  | succ fuel => rw [members, members, nextKey_skipBlanks]

theorem ended_of_skipBlanks {b : UInt8} (h : skipBlanks unread = b :: rest)
    (separates : b = 44 ∨ b = 93 ∨ b = 125) : Ended unread := by
  cases unread with
  | nil => exact ended_nil
  | cons c unread =>
    by_cases blank : isBlankByte c
    · exact ended_blank blank _
    · rw [skipBlanks, List.dropWhile_cons_of_neg blank] at h
      cases h
      exact ended_cons separates _

/-- Where a further member or the end of an object has been found, a value has ended. -/
theorem ended_of_nextKey {more : Bool} (h : nextKey false unread = .ok (more, rest)) :
    Ended unread := by
  unfold nextKey at h
  split at h
  · cases h
  · rename_i b behind begins
    by_cases closing : b = 125
    · exact ended_of_skipBlanks begins (.inr (.inr closing))
    · by_cases comma : b = 44
      · exact ended_of_skipBlanks begins (.inl comma)
      · simp [closing, comma] at h

theorem ended_of_members {fuel : Nat}
    (h : members step fuel false state unread = .ok (final, rest)) :
    Ended unread := by
  cases fuel with
  | zero => cases h
  | succ fuel =>
    obtain ⟨⟨more, found⟩, next, _⟩ := bind_eq_ok_iff.1 h
    exact ended_of_nextKey (inside_eq_ok next)

/-- A member is read from its own bytes, and then the others are. -/
theorem members_written {m : Member} {bytes others : List UInt8} {first : Bool}
    (h : LocalStep step) (written : m.Written bytes)
    (begins : ∀ inner, bytes = 34 :: inner → nextKey first unread = .ok (true, inner ++ others))
    (ended : Ended others) (fuel : Nat) :
    members step (fuel + 1) first state unread = .ok (final, rest) ↔
      ∃ next, step state m.name (58 :: m.value) = .ok (next, []) ∧
        members step fuel false next others = .ok (final, rest) := by
  cases written with
  | @of key before after named blank space spells =>
    have begins := begins _ rfl
    simp only [List.append_assoc, List.cons_append] at begins
    constructor
    · intro found
      obtain ⟨⟨more, start⟩, next, go⟩ := bind_eq_ok_iff.1 found
      rw [begins] at next
      cases next
      obtain ⟨⟨name, start⟩, quoted, go⟩ := bind_eq_ok_iff.1 go
      rw [named] at quoted
      cases quoted
      obtain ⟨⟨next, start⟩, read, onward⟩ := bind_eq_ok_iff.1 go
      have ended' : Ended start := ended_of_members onward
      obtain ⟨alone, rfl⟩ := (h.eq_ok_iff spells blank space ended ended').1 read
      exact ⟨next, alone, onward⟩
    · rintro ⟨next, alone, onward⟩
      have read := (h.eq_ok_iff spells blank space ended ended).2 ⟨alone, rfl⟩
      rw [members_next fuel begins (named _) read]
      exact onward

theorem folds_cons_iff {m : Member} {ms : List Member} :
    Folds step state (m :: ms) final ↔
      ∃ next, step state m.name (58 :: m.value) = .ok (next, []) ∧ Folds step next ms final := by
  constructor
  · intro h
    cases h with
    | cons alone folds => exact ⟨_, alone, folds⟩
  · rintro ⟨next, alone, folds⟩
    exact .cons alone folds

theorem nextKey_quote (inner : List UInt8) : nextKey true (34 :: inner) = .ok (true, inner) := by
  rw [nextKey, skipBlanks_cons rfl]
  rfl

theorem nextKey_comma {blanks : List UInt8} (blank : Blank blanks) (inner : List UInt8) :
    nextKey false (44 :: (blanks ++ 34 :: inner)) = .ok (true, inner) := by
  have quote : skipBlanks (blanks ++ 34 :: inner) = 34 :: inner := by
    rw [skipBlanks_append blank, skipBlanks_cons rfl]
  rw [nextKey, skipBlanks_cons rfl]
  simp only [quote]
  rfl

/-- Members are read one after the other, each from its own bytes. -/
theorem members_eq_ok_iff (h : LocalStep step) {first : Bool} {ms : List Member}
    (writes : Writes first ms text) {fuel : Nat} (enough : text.length < fuel)
    (others : List UInt8) :
    members step fuel first state (text ++ others) = .ok (final, rest) ↔
      Folds step state ms final ∧ rest = 125 :: others := by
  induction writes generalizing fuel state with
  | @blank first ms b bytes blank _ ih =>
    have same : skipBlanks (b :: (bytes ++ others)) = skipBlanks (bytes ++ others) :=
      skipBlanks_blank blank _
    rw [List.cons_append, ← members_skipBlanks, same, members_skipBlanks]
    exact ih (Nat.lt_of_succ_lt enough)
  | close first =>
    obtain ⟨fuel, rfl⟩ := Nat.exists_eq_succ_of_ne_zero (Nat.ne_zero_of_lt enough)
    rw [List.singleton_append, members_end first fuel (skipBlanks_cons rfl others)]
    constructor
    · intro same
      cases same
      exact ⟨.nil _, rfl⟩
    · rintro ⟨folds, rfl⟩
      cases folds
      rfl
  | @first m ms bytes more written writes ih =>
    obtain ⟨fuel, rfl⟩ := Nat.exists_eq_succ_of_ne_zero (Nat.ne_zero_of_lt enough)
    have shorter : more.length < fuel := by
      have := written.length_pos
      rw [List.length_append] at enough
      omega
    have begins (inner : List UInt8) (same : bytes = 34 :: inner) :
        nextKey true (bytes ++ more ++ others) = .ok (true, inner ++ (more ++ others)) := by
      rw [same, List.append_assoc, List.cons_append, nextKey_quote]
    rw [members_written h written begins (writes.ended others)]
    simp only [ih shorter, folds_cons_iff, ← and_assoc, exists_and_right]
  | @next m ms blanks bytes more blank written writes ih =>
    obtain ⟨fuel, rfl⟩ := Nat.exists_eq_succ_of_ne_zero (Nat.ne_zero_of_lt enough)
    have shorter : more.length < fuel := by
      rw [List.length_cons, List.length_append, List.length_append] at enough
      omega
    have begins (inner : List UInt8) (same : bytes = 34 :: inner) :
        nextKey false (44 :: (blanks ++ (bytes ++ more)) ++ others) =
          .ok (true, inner ++ (more ++ others)) := by
      rw [same, List.cons_append, List.append_assoc, List.append_assoc, List.cons_append,
        nextKey_comma blank]
    rw [members_written h written begins (writes.ended others)]
    simp only [ih shorter, folds_cons_iff, ← and_assoc, exists_and_right]

theorem LocalStep.exists_written (h : LocalStep step) {name : String} {found : List UInt8}
    (quoted : Read.string unread = .ok (name, found))
    (read : step state name found = .ok (next, rest)) :
    ∃ m bytes, 34 :: unread = bytes ++ rest ∧ Member.Written m bytes := by
  obtain ⟨reader, isLocal, same⟩ := h state name
  obtain ⟨start, sign, value⟩ := bind_eq_ok_iff.1 ((same ..).1 read)
  obtain ⟨key, rfl, _, named⟩ := string_eq_ok_own quoted
  obtain ⟨before, space, blank⟩ := exists_blanks found
  rw [colon_eq_ok sign] at space
  obtain ⟨text, rfl, spells, _⟩ := isLocal.own value
  have none : Blank [] := fun _ h => by cases h
  refine ⟨⟨name, text⟩, _, ?_, .of named blank none spells⟩
  simp [space]

/-- What is read as the members of an object is spelled as such. -/
theorem exists_writes (h : LocalStep step) {fuel : Nat} {first : Bool} {between : List UInt8}
    (read : members step fuel first state unread = .ok (final, between))
    (closed : closeObject between = .ok rest) :
    ∃ ms text, unread = text ++ rest ∧ Writes first ms text := by
  induction fuel generalizing first state unread with
  | zero => cases read
  | succ fuel ih =>
    obtain ⟨⟨more, found⟩, next, go⟩ := bind_eq_ok_iff.1 read
    obtain ⟨blanks, same, blank⟩ := exists_blanks unread
    obtain ⟨rfl, rfl⟩ | ⟨rfl, rfl, quote⟩ | ⟨rfl, rfl, behind, comma, quote⟩ :=
      nextKey_eq_ok (inside_eq_ok next)
    · cases go
      have closing := closeObject_eq_ok closed
      rw [skipBlanks_skipBlanks] at closing
      refine ⟨[], blanks ++ [125], ?_, .blanks blank (.close first)⟩
      rw [same, closing, List.append_assoc, List.singleton_append]
    all_goals
      obtain ⟨⟨name, after⟩, quoted, go⟩ := bind_eq_ok_iff.1 go
      obtain ⟨⟨next, left⟩, value, onward⟩ := bind_eq_ok_iff.1 go
      obtain ⟨m, bytes, spelled, written⟩ := h.exists_written (inside_eq_ok quoted) value
      obtain ⟨ms, text, rfl, writes⟩ := ih onward
    · refine ⟨m :: ms, blanks ++ (bytes ++ text), ?_, .blanks blank (.first written writes)⟩
      rw [same, quote, spelled]
      simp only [List.append_assoc]
    · obtain ⟨spaces, same', space⟩ := exists_blanks behind
      refine ⟨m :: ms, blanks ++ 44 :: (spaces ++ (bytes ++ text)), ?_,
        .blanks blank (.next space written writes)⟩
      rw [same, comma, same', quote, spelled]
      simp only [List.append_assoc, List.cons_append]

theorem exists_members (h : LocalStep step)
    (read : Read.object step state unread = .ok (final, rest)) :
    ∃ ms text, unread = text ++ rest ∧ Writes true ms text := by
  obtain ⟨between, read, closed⟩ := leaveObject_eq_ok read
  exact exists_writes h read closed

/-- What an object is read as depends on the names and the values of its members alone. -/
theorem object_eq_ok_iff (h : LocalStep step) {ms : List Member} (writes : Writes true ms text)
    (others : List UInt8) :
    Read.object step state (text ++ others) = .ok (final, rest) ↔
      Folds step state ms final ∧ rest = others := by
  have enough : text.length < (text ++ others).length + 1 := by
    rw [List.length_append]
    omega
  have each {between : List UInt8} :
      members step ((text ++ others).length + 1) true state (text ++ others) =
        .ok (final, between) ↔ Folds step state ms final ∧ between = 125 :: others :=
    members_eq_ok_iff h writes enough others
  constructor
  · intro read
    obtain ⟨between, read, closed⟩ := leaveObject_eq_ok read
    obtain ⟨folds, rfl⟩ := each.1 read
    rw [closeObject, skipBlanks_cons rfl] at closed
    cases closed
    exact ⟨folds, rfl⟩
  · rintro ⟨folds, rfl⟩
    rw [Read.object, each.2 ⟨folds, rfl⟩]
    rfl

end

end WidgetBindings.Json
