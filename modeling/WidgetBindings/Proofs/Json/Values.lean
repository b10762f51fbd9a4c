import WidgetBindings.Proofs.Document.Key
import WidgetBindings.Proofs.Json.Numbers
import WidgetBindings.Proofs.Json.Records

/-!
# Values that have been read can be printed and read again

* `Kept`: what holds of every value that has been read (`kept_of_value`): no object has a key
  twice, and containers do not stand too deeply inside one another;
* `readable_value`: a value of this kind without floats is read as it was printed.

Values can be compared (`same_iff`), so what has been read can be tested.
-/

namespace WidgetBindings.Json

/-! ## Comparing -/

mutual

/-- Whether two values are the same, down to the order of members. -/
def same : Json → Json → Bool
  | null, null => true
  | bool a, bool b => a == b
  | number a, number b => a = b
  | string a, string b => a == b
  | array a, array b => sameItems a b
  | object a, object b => sameMembers a b
  | _, _ => false

def sameItems : List Json → List Json → Bool
  | [], [] => true
  | a :: as, b :: bs => same a b && sameItems as bs
  | _, _ => false

def sameMembers : List (String × Json) → List (String × Json) → Bool
  | [], [] => true
  | (k, a) :: as, (l, b) :: bs => k == l && same a b && sameMembers as bs
  | _, _ => false

end

mutual

theorem same_iff (v w : Json) : same v w = true ↔ v = w := by
  cases v with
  | array items => cases w <;> simp [same, sameItems_iff items]
  | object members => cases w <;> simp [same, sameMembers_iff members]
  | null | bool | number | string => cases w <;> simp [same]

theorem sameItems_iff (items others : List Json) :
    sameItems items others = true ↔ items = others := by
  cases items with
  | nil => cases others <;> simp [sameItems]
  | cons item items => cases others <;> simp [sameItems, same_iff item, sameItems_iff items]

theorem sameMembers_iff (members others : List (String × Json)) :
    sameMembers members others = true ↔ members = others := by
  cases members with
  | nil => cases others <;> simp [sameMembers]
  | cons member members =>
    cases member with
    | mk key value =>
      cases others with
      | nil => simp [sameMembers]
      | cons other others =>
        cases other
        simp [sameMembers, same_iff value, sameMembers_iff members]

end

instance : DecidableEq Json := fun v w => decidable_of_iff _ (same_iff v w)

/-! ## What has been read -/

/-- A value in which at most `depth` containers stand inside one another, and no object has a key
twice. -/
inductive Kept : (depth : Nat) → Json → Prop
  | null (depth : Nat) : Kept depth .null
  | bool (depth : Nat) (b : Bool) : Kept depth (.bool b)
  | number (depth : Nat) (n : Number) : Kept depth (.number n)
  | string (depth : Nat) (s : String) : Kept depth (.string s)
  | array {depth : Nat} {items : List Json} (each : ∀ i ∈ items, Kept depth i) :
      Kept (depth + 1) (.array items)
  | object {depth : Nat} {members : List (String × Json)}
      (distinct : (members.map (·.1)).Nodup) (each : ∀ m ∈ members, Kept depth m.2) :
      Kept (depth + 1) (.object members)

/-- A value without floats in it. -/
inductive FloatFree : Json → Prop
  | null : FloatFree .null
  | bool (b : Bool) : FloatFree (.bool b)
  | integer (v : Int) (fits : Number.least ≤ v ∧ v < Number.limit) :
      FloatFree (.number (.integer v fits))
  | string (s : String) : FloatFree (.string s)
  | array {items : List Json} (each : ∀ i ∈ items, FloatFree i) : FloatFree (.array items)
  | object {members : List (String × Json)} (each : ∀ m ∈ members, FloatFree m.2) :
      FloatFree (.object members)

namespace Read

/-! ## Printing -/

theorem readable_null (depth level : Nat) :
    Readable (value depth) (prettyAt level .null) .null := by
  have bytes : Text.toBytes "null" = [110, 117, 108, 108] := by decide
  rw [prettyAt]
  refine ⟨⟨110, _, bytes, rfl, by decide⟩, fun {unread rest} h _ => ?_⟩
  rw [bytes] at h
  rw [value, h]
  rfl

theorem readable_array {depth level : Nat} {items : List Json}
    (readable : ∀ i ∈ items, Readable (value depth) (prettyAt (level + 1) i) i) :
    Readable (value (depth + 1)) (prettyAt level (.array items)) (.array items) := by
  obtain ⟨bytes, same, reads⟩ := list_printed id level items
  rw [List.map_id] at same
  refine ⟨⟨91, bytes, same, rfl, by decide⟩, fun {unread rest} h _ => ?_⟩
  have all := reads _ (fun before i => before ++ [i]) [] rest
    fun i hi before => (readable i hi).appended before
  rw [foldl_concat] at all
  rw [same, List.cons_append] at h
  rw [value, h]
  exact congrArg (Except.bind · fun found => .ok (Json.array found.1, found.2)) all

theorem readable_object {depth level : Nat} {members : List (String × Json)}
    (distinct : (members.map (·.1)).Nodup)
    (readable : ∀ m ∈ members, Readable (value depth) (prettyAt (level + 1) m.2) m.2) :
    Readable (value (depth + 1)) (prettyAt level (.object members)) (.object members) := by
  have takes := takes_keyed id (fun fields key v => setMember key v fields) [] readable
  change Takes _ _ _ (members.map id) _ at takes
  rw [List.map_id, foldl_setMember (by simpa using distinct), List.nil_append] at takes
  obtain ⟨bytes, same, reads⟩ := (unfolds_pretty level members).exists_object takes
  refine ⟨⟨123, bytes, same, rfl, by decide⟩, fun {unread rest} h _ => ?_⟩
  rw [same, List.cons_append] at h
  rw [value, h]
  exact congrArg (Except.bind · fun found => .ok (Json.object found.1, found.2)) (reads rest)

/-- A value without floats is read as it was printed, if it can have come from reading. -/
theorem readable_value {depth : Nat} {v : Json} (kept : Kept depth v) (floatFree : FloatFree v)
    (level : Nat) : Readable (value depth) (prettyAt level v) v := by
  induction kept generalizing level with
  | null depth => exact readable_null depth level
  | bool depth b => exact readable_bool depth level b
  | number depth n =>
    cases floatFree with
    | integer v fits => exact readable_integer depth level v fits
  | string depth s => exact readable_string depth level s
  | array each ih =>
    cases floatFree with
    | array free => exact readable_array fun i hi => ih i hi (free i hi) (level + 1)
  | object distinct each ih =>
    cases floatFree with
    | object free => exact readable_object distinct fun m hm => ih m hm (free m hm) (level + 1)

/-! ## Reading -/

section

variable {σ : Type} {P : σ → Prop} {state final : σ} {unread rest : List UInt8}

/-- What each element keeps, a list keeps. -/
theorem elements_keeps {step : σ → List UInt8 → Except Fault (σ × List UInt8)}
    (keeps : ∀ s unread next rest, P s → step s unread = .ok (next, rest) → P next)
    {fuel : Nat} {first : Bool} (start : P state)
    (h : elements step fuel first state unread = .ok (final, rest)) : P final := by
  induction fuel generalizing first state unread with
  | zero => cases h
  | succ fuel ih =>
    obtain ⟨⟨more, found⟩, _, h⟩ := bind_eq_ok_iff.1 h
    cases more with
    | false =>
      cases h
      exact start
    | true =>
      obtain ⟨⟨next, behind⟩, read, h⟩ := bind_eq_ok_iff.1 h
      exact ih (keeps state found next behind start read) h

/-- What each member keeps, an object keeps. -/
theorem members_keeps {step : σ → String → List UInt8 → Except Trouble (σ × List UInt8)}
    (keeps : ∀ s key unread next rest, P s → step s key unread = .ok (next, rest) → P next)
    {fuel : Nat} {first : Bool} (start : P state)
    (h : members step fuel first state unread = .ok (final, rest)) : P final := by
  induction fuel generalizing first state unread with
  | zero => cases h
  | succ fuel ih =>
    obtain ⟨⟨more, found⟩, _, h⟩ := bind_eq_ok_iff.1 h
    cases more with
    | false =>
      cases h
      exact start
    | true =>
      obtain ⟨⟨key, behind⟩, _, h⟩ := bind_eq_ok_iff.1 h
      obtain ⟨⟨next, after⟩, read, h⟩ := bind_eq_ok_iff.1 h
      exact ih (keeps state key behind next after start read) h

theorem inside_eq_ok {α : Type} {x : Except Fault α} {a : α} (h : inside x = .ok a) :
    x = .ok a := by
  cases x with
  | error fault => cases h
  | ok b => exact congrArg Except.ok (Except.ok.inj h)

theorem leaveList_eq_ok {α : Type} {x : Except Trouble (α × List UInt8)} {a : α}
    (h : leaveList x = .ok (a, rest)) :
    ∃ between, x = .ok (a, between) ∧ closeList between = .ok rest := by
  unfold leaveList at h
  split at h
  · obtain ⟨_, closed, h⟩ := bind_eq_ok_iff.1 h
    cases h
    exact ⟨_, rfl, closed⟩
  · cases h
  · cases h

theorem leaveObject_eq_ok {α : Type} {x : Except Trouble (α × List UInt8)} {a : α}
    (h : leaveObject x = .ok (a, rest)) :
    ∃ between, x = .ok (a, between) ∧ closeObject between = .ok rest := by
  unfold leaveObject at h
  split at h
  · obtain ⟨_, closed, h⟩ := bind_eq_ok_iff.1 h
    cases h
    exact ⟨_, rfl, closed⟩
  · cases h
  · cases h

end

/-- The members of an object, each value `depth` deep. -/
structure KeptMembers (depth : Nat) (members : List (String × Json)) : Prop where
  distinct : (members.map (·.1)).Nodup
  each : ∀ m ∈ members, Kept depth m.2

theorem keptMembers_nil (depth : Nat) : KeptMembers depth [] := ⟨.nil, fun _ h => by cases h⟩

theorem mem_setMember {key : String} {v : Json} {members : List (String × Json)}
    {m : String × Json} (h : m ∈ setMember key v members) : m = (key, v) ∨ m ∈ members := by
  induction members with
  | nil => exact .inl (List.mem_singleton.1 h)
  | cons first members ih =>
    obtain ⟨k, w⟩ := first
    rw [setMember] at h
    split at h
    · rename_i same
      obtain rfl | h := List.mem_cons.1 h
      · exact .inl (same ▸ rfl)
      · exact .inr (List.mem_cons_of_mem _ h)
    · obtain rfl | h := List.mem_cons.1 h
      · exact .inr List.mem_cons_self
      · exact (ih h).imp_right (List.mem_cons_of_mem _)

/-- Setting a member leaves the keys as they are, or adds one that was not there. -/
theorem keys_setMember (key : String) (v : Json) (members : List (String × Json)) :
    (setMember key v members).map (·.1) =
      if key ∈ members.map (·.1) then members.map (·.1) else members.map (·.1) ++ [key] := by
  induction members with
  | nil => rfl
  | cons first members ih =>
    obtain ⟨k, w⟩ := first
    rw [setMember]
    by_cases same : k = key
    · simp [same]
    · rw [if_neg same, List.map_cons, ih]
      by_cases there : key ∈ members.map (·.1)
      · simp [there]
      · simp [there, Ne.symm same]

theorem KeptMembers.setMember {depth : Nat} {members : List (String × Json)}
    (h : KeptMembers depth members) (key : String) {v : Json} (kept : Kept depth v) :
    KeptMembers depth (Json.setMember key v members) := by
  refine ⟨?_, fun m hm => ?_⟩
  · rw [keys_setMember]
    split
    · exact h.distinct
    · rename_i fresh
      exact List.nodup_append.2 ⟨h.distinct, List.nodup_singleton key, fun a ha b hb same => by
        rw [List.mem_singleton.1 hb] at same
        exact fresh (same ▸ ha)⟩
  · obtain rfl | hm := mem_setMember hm
    · exact kept
    · exact h.each m hm

theorem scalar_kept {b : UInt8} {unread rest : List UInt8} {v : Json}
    (h : scalar b unread = .ok (v, rest)) (depth : Nat) : Kept depth v := by
  unfold scalar at h
  split at h
  · obtain ⟨_, _, h⟩ := bind_eq_ok_iff.1 h
    cases h
    exact .null depth
  · split at h
    · obtain ⟨_, _, h⟩ := bind_eq_ok_iff.1 h
      cases h
      exact .bool depth true
    · split at h
      · obtain ⟨_, _, h⟩ := bind_eq_ok_iff.1 h
        cases h
        exact .bool depth false
      · split at h
        · obtain ⟨_, _, h⟩ := bind_eq_ok_iff.1 h
          cases h
          exact .number depth _
        · split at h
          · obtain ⟨_, _, h⟩ := bind_eq_ok_iff.1 h
            cases h
            exact .number depth _
          · split at h
            · obtain ⟨_, _, h⟩ := bind_eq_ok_iff.1 h
              cases h
              exact .string depth _
            · cases h

/-- An object whose values are read at a depth has members of that depth. -/
theorem object_kept {depth : Nat} {unread rest : List UInt8} {members : List (String × Json)}
    (kept : ∀ {v unread rest}, value depth unread = .ok (v, rest) → Kept depth v)
    (h : object (keyed (value depth) fun fields key v => setMember key v fields) [] unread =
      .ok (members, rest)) : KeptMembers depth members := by
  obtain ⟨_, h, _⟩ := leaveObject_eq_ok h
  refine members_keeps (P := KeptMembers depth) (fun s key unread next rest hs step => ?_)
    (keptMembers_nil depth) h
  obtain ⟨_, _, step⟩ := bind_eq_ok_iff.1 (inside_eq_ok step)
  obtain ⟨_, read, step⟩ := bind_eq_ok_iff.1 step
  cases step
  exact hs.setMember key (kept read)

/-- What has been read at a depth has at most that many containers inside one another, and no key
twice in an object. -/
theorem kept_of_value {depth : Nat} {unread rest : List UInt8} {v : Json}
    (h : value depth unread = .ok (v, rest)) : Kept depth v := by
  induction depth generalizing unread rest v with
  | zero =>
    rw [value] at h
    split at h
    · cases h
    · split at h
      · cases h
      · split at h
        · cases h
        · exact scalar_kept h 0
  | succ depth ih =>
    rw [value] at h
    split at h
    · cases h
    · split at h
      · obtain ⟨⟨items, _⟩, read, h⟩ := bind_eq_ok_iff.1 h
        cases h
        obtain ⟨_, read, _⟩ := leaveList_eq_ok read
        refine .array (elements_keeps (P := fun items => ∀ i ∈ items, Kept depth i)
          (fun s unread next rest hs step => ?_) (fun _ h => by cases h) (inside_eq_ok read))
        obtain ⟨⟨item, _⟩, one, step⟩ := bind_eq_ok_iff.1 step
        cases step
        exact List.forall_mem_append.2 ⟨hs, List.forall_mem_singleton.2 (ih one)⟩
      · split at h
        · obtain ⟨⟨fields, _⟩, read, h⟩ := bind_eq_ok_iff.1 h
          cases h
          have kept := object_kept ih read
          exact .object kept.distinct kept.each
        · exact scalar_kept h (depth + 1)

end Read

end WidgetBindings.Json
