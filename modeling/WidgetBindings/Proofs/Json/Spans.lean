import Mathlib.Data.List.DropRight
import WidgetBindings.Proofs.Json.Runs

/-!
# How far a value reaches

`Spans` is the grammar of JSON as a relation between the bytes before a value and those after it. It
leaves open how far a string reaches: that is for the reader of strings to say (`Spelled`).

* `spans_value`: what has been read as a value is one by the grammar;
* `Spans.checks`: the bytes of a value are well-formed if those of the strings in it are.
-/

namespace WidgetBindings.Json

open Read

variable {unread between rest : List UInt8}

/-! ## The grammar -/

/-- What is to come: a value, the items of a list or the members of an object up to the closing
bracket, a member, or what follows the key of one. -/
inductive Part
  | value
  | items (first : Bool)
  | members (first : Bool)
  | key
  | colon

/-- From one place to a later one there is a part of a JSON text. The strings in it reach from what
follows the opening quote to what follows the closing one. -/
inductive Spans (Reaches : List UInt8 → List UInt8 → Prop) :
    Part → List UInt8 → List UInt8 → Prop
  | blank {part : Part} {b : UInt8} {unread rest : List UInt8} :
      isBlankByte b → Spans Reaches part unread rest → Spans Reaches part (b :: unread) rest
  | bare {b : UInt8} {unread rest : List UInt8} :
      isBareByte b → Runs isBareByte unread rest → Spans Reaches .value (b :: unread) rest
  | string {unread rest : List UInt8} :
      Reaches unread rest → Spans Reaches .value (34 :: unread) rest
  | list {unread rest : List UInt8} :
      Spans Reaches (.items true) unread rest → Spans Reaches .value (91 :: unread) rest
  | object {unread rest : List UInt8} :
      Spans Reaches (.members true) unread rest → Spans Reaches .value (123 :: unread) rest
  | listEnd (first : Bool) (rest : List UInt8) : Spans Reaches (.items first) (93 :: rest) rest
  | item {unread between rest : List UInt8} :
      Spans Reaches .value unread between → Spans Reaches (.items false) between rest →
      Spans Reaches (.items true) unread rest
  | nextItem {unread between rest : List UInt8} :
      Spans Reaches .value unread between → Spans Reaches (.items false) between rest →
      Spans Reaches (.items false) (44 :: unread) rest
  | objectEnd (first : Bool) (rest : List UInt8) :
      Spans Reaches (.members first) (125 :: rest) rest
  | member {unread rest : List UInt8} :
      Spans Reaches .key unread rest → Spans Reaches (.members true) unread rest
  | nextMember {unread rest : List UInt8} :
      Spans Reaches .key unread rest → Spans Reaches (.members false) (44 :: unread) rest
  | key {unread between rest : List UInt8} :
      Reaches unread between → Spans Reaches .colon between rest →
      Spans Reaches .key (34 :: unread) rest
  | colon {unread between rest : List UInt8} :
      Spans Reaches .value unread between → Spans Reaches (.members false) between rest →
      Spans Reaches .colon (58 :: unread) rest

theorem Spans.of_skipBlanks {Reaches : List UInt8 → List UInt8 → Prop} {part : Part}
    (h : Spans Reaches part (skipBlanks unread) rest) : Spans Reaches part unread rest := by
  induction unread with
  | nil => exact h
  | cons b unread ih =>
    by_cases blank : isBlankByte b
    · rw [skipBlanks, List.dropWhile_cons_of_pos blank] at h
      exact .blank blank (ih h)
    · rwa [skipBlanks, List.dropWhile_cons_of_neg blank] at h

/-! ## Containers -/

theorem skipBlanks_skipBlanks (unread : List UInt8) :
    skipBlanks (skipBlanks unread) = skipBlanks unread :=
  List.dropWhile_idempotent isBlankByte unread

/-- What has been found where the next element of a list begins. -/
theorem nextElement_eq_ok {first more : Bool} {found : List UInt8}
    (h : nextElement first unread = .ok (more, found)) :
    (more = false ∧ skipBlanks unread = found) ∨
    (more = true ∧ first = true ∧ skipBlanks unread = found) ∨
    (more = true ∧ first = false ∧
      ∃ behind, skipBlanks unread = 44 :: behind ∧ skipBlanks behind = found) := by
  unfold nextElement at h
  split at h
  · cases h
  · rename_i blanks
    split_ifs at h with _ one comma
    · cases h
      exact .inl ⟨rfl, blanks⟩
    · cases h
      exact .inr (.inl ⟨rfl, one, blanks⟩)
    · split at h
      · cases h
      · rename_i next
        split_ifs at h
        cases h
        exact .inr (.inr ⟨rfl, eq_false_of_ne_true one, _, comma ▸ blanks, next⟩)

/-- What has been found where the key of the next member of an object begins. -/
theorem nextKey_eq_ok {first more : Bool} {found : List UInt8}
    (h : nextKey first unread = .ok (more, found)) :
    (more = false ∧ skipBlanks unread = found) ∨
    (more = true ∧ first = true ∧ skipBlanks unread = 34 :: found) ∨
    (more = true ∧ first = false ∧
      ∃ behind, skipBlanks unread = 44 :: behind ∧ skipBlanks behind = 34 :: found) := by
  unfold nextKey at h
  split at h
  · cases h
  · rename_i blanks
    split_ifs at h with _ one quote comma
    · cases h
      exact .inl ⟨rfl, blanks⟩
    · cases h
      exact .inr (.inl ⟨rfl, one, quote ▸ blanks⟩)
    · split at h
      · cases h
      · rename_i next
        split_ifs at h with quote
        cases h
        exact .inr (.inr ⟨rfl, eq_false_of_ne_true one, _, comma ▸ blanks, quote ▸ next⟩)

theorem closeList_eq_ok (h : closeList unread = .ok rest) : skipBlanks unread = 93 :: rest := by
  unfold closeList at h
  split at h
  · cases h
  · rename_i blanks
    split_ifs at h with closing
    cases h
    exact closing ▸ blanks

theorem closeObject_eq_ok (h : closeObject unread = .ok rest) :
    skipBlanks unread = 125 :: rest := by
  unfold closeObject at h
  split at h
  · cases h
  · rename_i blanks
    split_ifs at h with closing
    cases h
    exact closing ▸ blanks

theorem colon_eq_ok (h : colon unread = .ok rest) : skipBlanks unread = 58 :: rest := by
  unfold colon at h
  split at h
  · cases h
  · rename_i blanks
    split_ifs at h with sign
    cases h
    exact sign ▸ blanks


/-! ## Values -/

theorem spans_scalar {b : UInt8} {v : Json} (h : Read.scalar b unread = .ok (v, rest)) :
    Spans Spelled .value (b :: unread) rest := by
  unfold Read.scalar at h
  split_ifs at h with isNull isTrue isFalse minus digit quote
  · obtain ⟨_, found, h⟩ := bind_eq_ok_iff.1 h
    cases h
    exact .bare (isNull ▸ rfl) (runs_word (by decide +kernel) found)
  · obtain ⟨_, found, h⟩ := bind_eq_ok_iff.1 h
    cases h
    exact .bare (isTrue ▸ rfl) (runs_word (by decide +kernel) found)
  · obtain ⟨_, found, h⟩ := bind_eq_ok_iff.1 h
    cases h
    exact .bare (isFalse ▸ rfl) (runs_word (by decide +kernel) found)
  · obtain ⟨_, found, h⟩ := bind_eq_ok_iff.1 h
    cases h
    obtain ⟨c, between, rfl, bare, run⟩ := number_eq_ok found
    exact .bare (minus ▸ rfl) (.cons bare run)
  · obtain ⟨_, found, h⟩ := bind_eq_ok_iff.1 h
    cases h
    obtain ⟨c, between, same, bare, run⟩ := number_eq_ok found
    cases same
    exact .bare bare run
  · obtain ⟨⟨text, _⟩, found, h⟩ := bind_eq_ok_iff.1 h
    cases h
    exact quote ▸ .string ⟨text, found⟩

section Containers

variable {σ : Type} {state final : σ}

theorem spans_elements {step : σ → List UInt8 → Except Fault (σ × List UInt8)}
    (each : ∀ s unread next rest, step s unread = .ok (next, rest) →
      Spans Spelled .value unread rest)
    {fuel : Nat} {first : Bool} (h : elements step fuel first state unread = .ok (final, between))
    (closed : closeList between = .ok rest) : Spans Spelled (.items first) unread rest := by
  induction fuel generalizing first state unread with
  | zero => cases h
  | succ fuel ih =>
    obtain ⟨⟨more, found⟩, next, go⟩ := bind_eq_ok_iff.1 h
    obtain ⟨rfl, rfl⟩ | ⟨rfl, rfl, rfl⟩ | ⟨rfl, rfl, behind, comma, rfl⟩ :=
      nextElement_eq_ok next
    · cases go
      have closing := closeList_eq_ok closed
      rw [skipBlanks_skipBlanks] at closing
      exact .of_skipBlanks (closing ▸ .listEnd ..)
    · obtain ⟨⟨_, after⟩, read, go⟩ := bind_eq_ok_iff.1 go
      exact .of_skipBlanks (.item (each _ _ _ _ read) (ih go))
    · obtain ⟨⟨_, after⟩, read, go⟩ := bind_eq_ok_iff.1 go
      exact .of_skipBlanks (comma ▸ .nextItem (.of_skipBlanks (each _ _ _ _ read)) (ih go))

theorem spans_members {step : σ → String → List UInt8 → Except Trouble (σ × List UInt8)}
    (each : ∀ s key unread next rest, step s key unread = .ok (next, rest) →
      ∃ begin, colon unread = .ok begin ∧ Spans Spelled .value begin rest)
    {fuel : Nat} {first : Bool} (h : members step fuel first state unread = .ok (final, between))
    (closed : closeObject between = .ok rest) : Spans Spelled (.members first) unread rest := by
  induction fuel generalizing first state unread with
  | zero => cases h
  | succ fuel ih =>
    obtain ⟨⟨more, found⟩, next, go⟩ := bind_eq_ok_iff.1 h
    obtain ⟨rfl, rfl⟩ | ⟨rfl, rfl, quote⟩ | ⟨rfl, rfl, behind, comma, quote⟩ :=
      nextKey_eq_ok (inside_eq_ok next)
    · cases go
      have closing := closeObject_eq_ok closed
      rw [skipBlanks_skipBlanks] at closing
      exact .of_skipBlanks (closing ▸ .objectEnd ..)
    all_goals
      obtain ⟨⟨name, after⟩, key, go⟩ := bind_eq_ok_iff.1 go
      obtain ⟨⟨_, behind⟩, read, go⟩ := bind_eq_ok_iff.1 go
      obtain ⟨begin, sign, spans⟩ := each _ _ _ _ _ read
      have member : Spans Spelled .key (34 :: found) rest :=
        .key ⟨name, inside_eq_ok key⟩
          (.of_skipBlanks (colon_eq_ok sign ▸ .colon spans (ih go)))
    · exact .of_skipBlanks (quote ▸ .member member)
    · exact .of_skipBlanks (comma ▸ .nextMember (.of_skipBlanks (quote ▸ member)))

end Containers

/-- What has been read as a value is one by the grammar. -/
theorem spans_value {depth : Nat} {v : Json} (h : Read.value depth unread = .ok (v, rest)) :
    Spans Spelled .value unread rest := by
  induction depth generalizing unread rest v with
  | zero =>
    rw [Read.value] at h
    split at h
    · cases h
    · rename_i blanks
      split_ifs at h
      exact .of_skipBlanks (blanks ▸ spans_scalar h)
  | succ depth ih =>
    rw [Read.value] at h
    split at h
    · cases h
    · rename_i blanks
      split_ifs at h with list object
      · obtain ⟨_, read, h⟩ := bind_eq_ok_iff.1 h
        cases h
        obtain ⟨_, read, closed⟩ := leaveList_eq_ok read
        refine .of_skipBlanks (blanks ▸ list ▸ .list (spans_elements (fun s u n r step => ?_)
          (inside_eq_ok read) closed))
        obtain ⟨_, one, step⟩ := bind_eq_ok_iff.1 step
        cases step
        exact ih one
      · obtain ⟨_, read, h⟩ := bind_eq_ok_iff.1 h
        cases h
        obtain ⟨_, read, closed⟩ := leaveObject_eq_ok read
        refine .of_skipBlanks (blanks ▸ object ▸ .object (spans_members (fun s k u n r step => ?_)
          read closed))
        obtain ⟨begin, sign, step⟩ := bind_eq_ok_iff.1 (inside_eq_ok step)
        obtain ⟨_, one, step⟩ := bind_eq_ok_iff.1 step
        cases step
        exact ⟨begin, sign, ih one⟩
      · exact .of_skipBlanks (blanks ▸ spans_scalar h)

/-! ## Checked bytes -/

/-- Outside strings all bytes of a value stand for characters by themselves. So the bytes of a value
are well-formed if those of the strings in it are. -/
theorem Spans.checks {Reaches : List UInt8 → List UInt8 → Prop}
    (strings : ∀ unread rest, Reaches unread rest → Checks unread rest) {part : Part}
    (h : Spans Reaches part unread rest) : Checks unread rest := by
  induction h with
  | blank byte _ ih => exact ih.cons (lt_of_isBlankByte byte)
  | bare byte run => exact (run.checks fun _ => lt_of_isBareByte).cons (lt_of_isBareByte byte)
  | string text => exact (strings _ _ text).cons (by decide)
  | list _ ih | object _ ih => exact ih.cons (by decide)
  | listEnd | objectEnd => exact .cons (by decide) (.refl _)
  | item _ _ first others => exact first.trans others
  | nextItem _ _ first others => exact (first.trans others).cons (by decide)
  | member _ ih => exact ih
  | nextMember _ ih => exact ih.cons (by decide)
  | key name _ ih => exact ((strings _ _ name).trans ih).cons (by decide)
  | colon _ _ value others => exact (value.trans others).cons (by decide)

/-! ## Progress -/

/-- Every part takes some bytes. -/
theorem Spans.length_lt {Reaches : List UInt8 → List UInt8 → Prop}
    (strings : ∀ unread rest, Reaches unread rest → rest.length ≤ unread.length) {part : Part}
    (h : Spans Reaches part unread rest) : rest.length < unread.length := by
  induction h with
  | blank _ _ ih => exact ih.trans (Nat.lt_succ_self _)
  | bare _ run => exact Nat.lt_succ_of_le run.length_le
  | string text => exact Nat.lt_succ_of_le (strings _ _ text)
  | list _ ih | object _ ih | nextMember _ ih => exact ih.trans (Nat.lt_succ_self _)
  | listEnd | objectEnd => exact Nat.lt_succ_self _
  | item _ _ first others => exact others.trans first
  | nextItem _ _ first others | colon _ _ first others =>
    exact (others.trans first).trans (Nat.lt_succ_self _)
  | member _ ih => exact ih
  | key name _ ih => exact (ih.trans_le (strings _ _ name)).trans (Nat.lt_succ_self _)

end WidgetBindings.Json
