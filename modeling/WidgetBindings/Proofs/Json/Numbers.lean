import WidgetBindings.Proofs.Json.Containers

/-!
# Printed whole numbers are read back

* `digits_eq_append`: the decimal digits of a number, the last one apart;
* `digitsBelow_append`: digits are read into a number as long as it stays below the limit;
* `readable_integer`: every whole number that a value can hold is read as it was printed.
-/

namespace WidgetBindings.Json.Read

/-! ## Digits -/

/-- The bytes of the decimal digits of a number. -/
def digits (n : Nat) : List UInt8 := (Nat.toDigits 10 n).flatMap String.utf8EncodeChar

/-- The number that digits spell after the digits of `value`. -/
def spelled (value : Nat) (ds : List UInt8) : Nat :=
  ds.foldl (fun v d => v * 10 + digitValue d) value

theorem encode_digitChar {d : Nat} (h : d < 10) :
    ∃ b, String.utf8EncodeChar d.digitChar = [b] ∧ isDigit b ∧ digitValue b = d := by
  refine ⟨UInt8.ofNat (48 + d), ?_⟩
  revert d
  decide

/-- The last digit comes after the digits of a tenth of the number. -/
theorem digits_eq_append (n : Nat) : ∃ b, isDigit b ∧ digitValue b = n % 10 ∧
    digits n = (if n < 10 then [] else digits (n / 10)) ++ [b] := by
  obtain ⟨b, encoded, digit, same⟩ := encode_digitChar (Nat.mod_lt n (by decide : 10 > 0))
  refine ⟨b, digit, same, ?_⟩
  rw [digits, Nat.toDigits_eq_if (by decide)]
  split
  · rename_i small
    rw [Nat.mod_eq_of_lt small] at encoded
    simp [encoded]
  · simp [digits, encoded]

theorem spelled_append (value : Nat) (ds : List UInt8) (b : UInt8) :
    spelled value (ds ++ [b]) = spelled value ds * 10 + digitValue b := by
  rw [spelled, List.foldl_append]
  rfl

theorem spelled_digits (n : Nat) : spelled 0 (digits n) = n := by
  induction n using Nat.strongRecOn with
  | ind n ih =>
    obtain ⟨b, _, same, split⟩ := digits_eq_append n
    rw [split, spelled_append, same]
    by_cases small : n < 10
    · rw [if_pos small, spelled, List.foldl_nil]
      omega
    · rw [if_neg small, ih (n / 10) (by omega)]
      omega

theorem isDigit_of_mem_digits {n : Nat} {b : UInt8} (h : b ∈ digits n) : isDigit b := by
  induction n using Nat.strongRecOn with
  | ind n ih =>
    obtain ⟨last, digit, _, split⟩ := digits_eq_append n
    rw [split, List.mem_append, List.mem_singleton] at h
    obtain h | rfl := h
    · by_cases small : n < 10
      · rw [if_pos small] at h
        cases h
      · rw [if_neg small] at h
        exact ih (n / 10) (by omega) h
    · exact digit

/-- The digits of a number begin with a zero only if it is zero. -/
theorem digits_cons (n : Nat) : ∃ b rest, digits n = b :: rest ∧ (b = 48 → n = 0 ∧ rest = []) := by
  induction n using Nat.strongRecOn with
  | ind n ih =>
    obtain ⟨last, digit, same, split⟩ := digits_eq_append n
    by_cases small : n < 10
    · rw [if_pos small] at split
      refine ⟨last, [], split, fun zero => ⟨?_, rfl⟩⟩
      rw [zero, Nat.mod_eq_of_lt small] at same
      exact same.symm
    · obtain ⟨b, rest, begins, nonzero⟩ := ih (n / 10) (by omega)
      rw [if_neg small, begins] at split
      refine ⟨b, rest ++ [last], split, fun zero => ?_⟩
      have := (nonzero zero).1
      omega

theorem le_spelled (value : Nat) (ds : List UInt8) : value ≤ spelled value ds := by
  induction ds generalizing value with
  | nil => exact Nat.le_refl _
  | cons d ds ih =>
    have further := ih (value * 10 + digitValue d)
    rw [spelled, List.foldl_cons, ← spelled]
    omega

/-- Digits are read into a number as long as it stays below the limit. -/
theorem digitsBelow_append {limit value : Nat} {ds : List UInt8} (taken : Nat) (rest : List UInt8)
    (all : ∀ d ∈ ds, isDigit d) (room : spelled value ds < limit) :
    digitsBelow limit value taken (ds ++ rest) =
      digitsBelow limit (spelled value ds) (taken + ds.length) rest := by
  induction ds generalizing value taken with
  | nil => rfl
  | cons d ds ih =>
    obtain ⟨digit, all⟩ := List.forall_mem_cons.1 all
    have below : value * 10 + digitValue d < limit :=
      Nat.lt_of_le_of_lt (le_spelled _ ds) room
    rw [List.cons_append, digitsBelow, if_pos (by simp [digit, below]), ih _ all room,
      List.length_cons, Nat.add_assoc, Nat.add_comm 1]
    rfl

theorem digitsBelow_of_not_digit (limit value taken : Nat) {rest : List UInt8}
    (h : digitNext rest = false) : digitsBelow limit value taken rest = (value, taken, rest) := by
  cases rest with
  | nil => rfl
  | cons b rest =>
    have digit : isDigit b = false := by simpa [digitNext] using h
    rw [digitsBelow, if_neg (by simp [digit])]

/-! ## Numbers -/

/-- Nothing that may follow a value goes on with a number. -/
theorem Ended.no_number {rest : List UInt8} (h : Ended rest) :
    digitNext rest = false ∧ exponentNext rest = false ∧ rest.head? ≠ some 46 := by
  cases rest with
  | nil => exact ⟨rfl, rfl, by simp⟩
  | cons b rest =>
    have ends := h b rfl
    simp only [isBlankByte, Bool.or_eq_true, decide_eq_true_eq] at ends
    obtain (((rfl | rfl) | rfl) | rfl) | rfl | rfl | rfl := ends <;>
      exact ⟨rfl, rfl, by simp⟩

theorem afterDigits_ended (positive : Bool) (significand : Nat) {rest : List UInt8}
    (h : Ended rest) : afterDigits positive significand rest =
      .ok (whole positive significand, rest) := by
  obtain ⟨_, exponent, point⟩ := h.no_number
  rw [afterDigits, if_neg point, if_neg (by simp [exponent])]

theorem number_digits (positive : Bool) {n : Nat} (room : n < significandLimit)
    {rest : List UInt8} (h : Ended rest) :
    number positive (digits n ++ rest) = .ok (whole positive n, rest) := by
  have ⟨noDigit, _, _⟩ := h.no_number
  obtain ⟨b, ds, same, zero⟩ := digits_cons n
  have all : ∀ d ∈ b :: ds, isDigit d := fun d hd => isDigit_of_mem_digits (same ▸ hd)
  have value : spelled (digitValue b) ds = n := by
    have whole := spelled_digits n
    rwa [same, spelled, List.foldl_cons, ← spelled, Nat.zero_mul, Nat.zero_add] at whole
  rw [same, List.cons_append, number]
  by_cases leading : b = 48
  · obtain ⟨rfl, rfl⟩ := zero leading
    rw [if_pos leading, List.nil_append, if_neg (by simp [noDigit]), afterDigits_ended _ _ h]
  · obtain ⟨first, others⟩ := List.forall_mem_cons.1 all
    rw [if_neg leading, if_pos first, digitsBelow_append _ _ others (value.symm ▸ room), value,
      digitsBelow_of_not_digit _ _ _ noDigit]
    simp only [noDigit, Bool.false_eq_true, if_false]
    exact afterDigits_ended _ _ h

/-- A whole number that fits is kept, whatever its sign, unless it is a zero with a sign. -/
theorem whole_eq {positive : Bool} {n : Nat} {v : Int}
    (same : v = if positive then (n : Int) else -(n : Int)) (signed : positive ∨ v ≠ 0)
    (fits : Number.least ≤ v ∧ v < Number.limit) : whole positive n = .integer v fits := by
  subst same
  exact dif_pos ⟨signed, fits⟩

theorem ne_of_isDigit {b c : UInt8} (h : isDigit b) (other : isDigit c = false) : b ≠ c := by
  rintro rfl
  rw [h] at other
  cases other

theorem isBlankByte_of_isDigit {b : UInt8} (h : isDigit b) : isBlankByte b = false := by
  simp [isBlankByte, ne_of_isDigit (c := 32) h rfl, ne_of_isDigit (c := 9) h rfl,
    ne_of_isDigit (c := 10) h rfl, ne_of_isDigit (c := 13) h rfl]

theorem value_digit (depth : Nat) {unread rest : List UInt8} {b : UInt8} (digit : isDigit b)
    (h : skipBlanks unread = b :: rest) :
    value depth unread =
      (number true (b :: rest)).bind fun found => .ok (.number found.1, found.2) := by
  have apart {c : UInt8} (other : isDigit c = false) : b ≠ c := ne_of_isDigit digit other
  rw [value, h]
  simp only [if_neg (apart (c := 91) rfl), if_neg (apart (c := 123) rfl)]
  rw [scalar, if_neg (apart rfl), if_neg (apart rfl), if_neg (apart rfl), if_neg (apart rfl),
    if_pos digit]
  rfl

theorem readable_natural (depth level n : Nat)
    (fits : Number.least ≤ (n : Int) ∧ (n : Int) < Number.limit) :
    Readable (value depth) (prettyAt level (.number (.integer n fits)))
      (.number (.integer n fits)) := by
  rw [prettyAt, numberText]
  have bytes : Text.toBytes (toString (n : Int)) = digits n := Text.toBytes_ofList _
  have room : n < significandLimit := by
    have below := fits.2
    rw [Number.limit] at below
    rw [significandLimit]
    omega
  have same : whole true n = .integer n fits := whole_eq rfl (.inl rfl) fits
  obtain ⟨b, ds, begins, _⟩ := digits_cons n
  have digit : isDigit b := isDigit_of_mem_digits (begins ▸ List.mem_cons_self)
  refine ⟨⟨b, ds, bytes.trans begins, isBlankByte_of_isDigit digit, ne_of_isDigit digit rfl⟩,
    fun {unread rest} h ended => ?_⟩
  have read := number_digits true room ended
  rw [begins, List.cons_append, same] at read
  rw [bytes, begins, List.cons_append] at h
  rw [value_digit depth digit h, read]
  rfl

theorem readable_negative (depth level m : Nat)
    (fits : Number.least ≤ Int.negSucc m ∧ Int.negSucc m < Number.limit) :
    Readable (value depth) (prettyAt level (.number (.integer (Int.negSucc m) fits)))
      (.number (.integer (Int.negSucc m) fits)) := by
  rw [prettyAt, numberText]
  have minus : Text.toBytes "-" = [45] := by decide
  have bytes : Text.toBytes (toString (Int.negSucc m)) = 45 :: digits (m + 1) := by
    change Text.toBytes ("-" ++ String.ofList (Nat.toDigits 10 (m + 1))) = _
    rw [Text.toBytes_append, minus, Text.toBytes_ofList]
    rfl
  have room : m + 1 < significandLimit := by
    have above := fits.1
    rw [Number.least] at above
    rw [significandLimit]
    omega
  have same : whole false (m + 1) = .integer (Int.negSucc m) fits :=
    whole_eq (v := Int.negSucc m) rfl (.inr (Int.negSucc_ne_zero m)) fits
  refine ⟨⟨45, _, bytes, rfl, by decide⟩, fun {unread rest} h ended => ?_⟩
  have found : scalar 45 (digits (m + 1) ++ rest) =
      .ok (.number (.integer (Int.negSucc m) fits), rest) := by
    rw [scalar, if_neg (by decide), if_neg (by decide), if_neg (by decide), if_pos rfl,
      number_digits false room ended, same]
    rfl
  rw [bytes, List.cons_append] at h
  rw [value, h]
  exact found

/-- Every whole number that a value can hold is read as it was printed. -/
theorem readable_integer (depth level : Nat) (v : Int)
    (fits : Number.least ≤ v ∧ v < Number.limit) :
    Readable (value depth) (prettyAt level (.number (.integer v fits)))
      (.number (.integer v fits)) := by
  cases v with
  | ofNat n => exact readable_natural depth level n fits
  | negSucc m => exact readable_negative depth level m fits

end WidgetBindings.Json.Read
