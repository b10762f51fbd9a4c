import WidgetBindings.Proofs.Text.Bytes

/-!
# Well-formed bytes

Bytes are well-formed if they are those of a text. Where a whole character stands in well-formed
bytes, what is before it and what is after it are well-formed as well (`WellFormed.around`): no
character can begin inside another one. Bytes of which nothing is known in places can still be
well-formed everywhere else (`WellFormedBut`).
-/

namespace WidgetBindings.Text

/-- The bytes are those of a text. -/
def WellFormed (bytes : List UInt8) : Prop :=
  ∃ cs : List Char, bytes = cs.flatMap String.utf8EncodeChar

theorem ofBytes?_eq_some_iff {bytes : List UInt8} {s : String} :
    ofBytes? bytes = some s ↔ bytes = toBytes s := by
  constructor
  · intro h
    unfold ofBytes? String.fromUTF8? at h
    split at h
    · cases h
      rfl
    · cases h
  · rintro rfl
    exact ofBytes?_toBytes s

theorem wellFormed_iff {bytes : List UInt8} : WellFormed bytes ↔ (ofBytes? bytes).isSome := by
  rw [Option.isSome_iff_exists]
  simp only [ofBytes?_eq_some_iff]
  constructor
  · rintro ⟨cs, rfl⟩
    exact ⟨String.ofList cs, (toBytes_ofList cs).symm⟩
  · rintro ⟨s, rfl⟩
    exact ⟨s.toList, toBytes_eq_flatMap s⟩

theorem wellFormed_nil : WellFormed [] := ⟨[], rfl⟩

theorem wellFormed_char (c : Char) : WellFormed (String.utf8EncodeChar c) :=
  ⟨[c], (List.flatMap_singleton ..).symm⟩

theorem WellFormed.append {a b : List UInt8} (ha : WellFormed a) (hb : WellFormed b) :
    WellFormed (a ++ b) := by
  obtain ⟨cs, rfl⟩ := ha
  obtain ⟨ds, rfl⟩ := hb
  exact ⟨cs ++ ds, List.flatMap_append.symm⟩

theorem utf8EncodeChar_ofNat {b : UInt8} (ascii : b < 128) :
    String.utf8EncodeChar (Char.ofNat b.toNat) = [b] := by
  have same : ∀ n < 128, (Char.ofNat n).toNat = n := by decide
  have small := UInt8.lt_iff_toNat_lt.1 ascii
  rw [utf8EncodeChar_of_lt (by rwa [same _ small]), same _ small, UInt8.ofNat_toNat]

theorem WellFormed.cons {b : UInt8} (ascii : b < 128) {a : List UInt8} (ha : WellFormed a) :
    WellFormed (b :: a) := by
  have one := wellFormed_char (Char.ofNat b.toNat)
  rw [utf8EncodeChar_ofNat ascii] at one
  exact one.append ha

theorem wellFormed_of_ascii {bytes : List UInt8} (ascii : ∀ b ∈ bytes, b < 128) :
    WellFormed bytes := by
  induction bytes with
  | nil => exact wellFormed_nil
  | cons b bytes ih =>
    obtain ⟨first, others⟩ := List.forall_mem_cons.1 ascii
    exact (ih others).cons first

/-! ## Some parts left out -/

/-- The bytes are well-formed but for these parts of them, in this order. -/
inductive WellFormedBut : (parts : List (List UInt8)) → (bytes : List UInt8) → Prop
  | last {bytes : List UInt8} : WellFormed bytes → WellFormedBut [] bytes
  | next {front part rest : List UInt8} {parts : List (List UInt8)} :
      WellFormed front → WellFormedBut parts rest →
      WellFormedBut (part :: parts) (front ++ (part ++ rest))

theorem WellFormed.before {front bytes : List UInt8} {parts : List (List UInt8)}
    (formed : WellFormed front) (h : WellFormedBut parts bytes) :
    WellFormedBut parts (front ++ bytes) := by
  cases h with
  | last others => exact .last (formed.append others)
  | next first others =>
    rw [← List.append_assoc]
    exact .next (formed.append first) others

theorem WellFormedBut.append {bytes back : List UInt8} {parts : List (List UInt8)}
    (h : WellFormedBut parts bytes) (formed : WellFormed back) :
    WellFormedBut parts (bytes ++ back) := by
  induction h with
  | last others => exact .last (others.append formed)
  | next first _ ih =>
    rw [List.append_assoc, List.append_assoc]
    exact .next first ih

theorem WellFormedBut.wellFormed {bytes : List UInt8} {parts : List (List UInt8)}
    (h : WellFormedBut parts bytes) (each : ∀ part ∈ parts, WellFormed part) :
    WellFormed bytes := by
  induction h with
  | last formed => exact formed
  | next front _ ih =>
    obtain ⟨first, others⟩ := List.forall_mem_cons.1 each
    exact front.append (first.append (ih others))

/-- Parts that are well-formed need not be left out. -/
theorem WellFormedBut.filter {α : Type} {bytes : List UInt8} {f : α → List UInt8} {xs : List α}
    {p : α → Bool} (h : WellFormedBut (xs.map f) bytes)
    (others : ∀ x ∈ xs, ¬ p x → WellFormed (f x)) :
    WellFormedBut ((xs.filter p).map f) bytes := by
  induction xs generalizing bytes with
  | nil => exact h
  | cons x xs ih =>
    obtain ⟨here, later⟩ := List.forall_mem_cons.1 others
    cases h with
    | next formed rest =>
      have rest := ih rest later
      by_cases left : p x
      · rw [List.filter_cons_of_pos left]
        exact .next formed rest
      · rw [List.filter_cons_of_neg left]
        exact formed.before ((here left).before rest)

/-! ## Around a character -/

/-- From its first byte on a character is known. -/
theorem char_eq_of_append {c d : Char} {a b : List UInt8}
    (h : String.utf8EncodeChar c ++ a = String.utf8EncodeChar d ++ b) : c = d := by
  have decode (c : Char) (a : List UInt8) :
      ByteArray.utf8DecodeChar? (String.utf8EncodeChar c ++ a).toByteArray 0 = some c := by
    rw [List.toByteArray_append]
    exact ByteArray.utf8DecodeChar?_utf8EncodeChar_append
  have same := decode c a
  rw [h, decode d b] at same
  exact (Option.some.inj same).symm

/-- A character does not go on with the beginning of one. -/
theorem eq_nil_of_inside {c d : Char} {before inner after rest : List UInt8} (more : before ≠ [])
    (whole : String.utf8EncodeChar d = before ++ inner)
    (begins : String.utf8EncodeChar c ++ after = inner ++ rest) : inner = [] := by
  cases inner with
  | nil => rfl
  | cons b inner =>
    have place : before.length < (String.utf8EncodeChar d).length := by
      rw [whole, List.length_append, List.length_cons]
      omega
    have here : (String.utf8EncodeChar d)[before.length] = b := by simp [whole]
    have room : 0 < (String.utf8EncodeChar c).length := by
      rw [String.length_utf8EncodeChar]
      exact c.utf8Size_pos
    have first : (String.utf8EncodeChar c)[0] = b := by
      have same := congrArg (·[0]?) begins
      rw [List.getElem?_append_left room, List.getElem?_eq_getElem room] at same
      exact Option.some.inj same
    have lead := (@UInt8.isUTF8FirstByte_getElem_utf8EncodeChar c 0 room).2 rfl
    rw [first, ← here, UInt8.isUTF8FirstByte_getElem_utf8EncodeChar] at lead
    exact absurd (List.length_eq_zero_iff.1 lead) more

/-- What stands before a character and after it in well-formed bytes is well-formed. -/
theorem WellFormed.around {before after : List UInt8} {c : Char}
    (h : WellFormed (before ++ (String.utf8EncodeChar c ++ after))) :
    WellFormed before ∧ WellFormed after := by
  obtain ⟨cs, h⟩ := h
  induction cs generalizing before with
  | nil =>
    have size := congrArg List.length h
    have := c.utf8Size_pos
    simp at size
    omega
  | cons d cs ih =>
    rw [List.flatMap_cons] at h
    obtain ⟨inner, whole, begins⟩ | ⟨more, rfl, rest⟩ := List.append_eq_append_iff.1 h
    · by_cases empty : before = []
      · subst empty
        rw [List.nil_append] at h
        obtain rfl := char_eq_of_append h
        exact ⟨wellFormed_nil, cs, List.append_cancel_left h⟩
      · obtain rfl := eq_nil_of_inside empty whole begins
        rw [List.append_nil] at whole
        exact ⟨whole ▸ wellFormed_char d, (@ih [] begins).2⟩
    · obtain ⟨front, behind⟩ := ih rest.symm
      exact ⟨(wellFormed_char d).append front, behind⟩

end WidgetBindings.Text
