import WidgetBindings.Json.Printer
import WidgetBindings.Json.Token
import WidgetBindings.Proofs.Text.Bytes

/-!
# Printed strings are read back

Every character of a printed string stands for itself or is escaped. Either way reading it takes no
more steps than it has bytes, and gives the bytes of the character (`readsAs_escapedChar`), so a
printed string is read as it was (`string_printed`), whatever follows it.
-/

namespace WidgetBindings.Json.Read

/-- Inside a string, reading these bytes gives those ones, in no more steps than there are bytes. -/
def ReadsAs (bytes meant : List UInt8) : Prop :=
  ∃ steps ≤ bytes.length, ∀ (fuel : Nat) (seen rest : List UInt8),
    content (steps + fuel) seen (bytes ++ rest) = content fuel (meant.reverse ++ seen) rest

theorem ReadsAs.append {a b a' b' : List UInt8} (ha : ReadsAs a a') (hb : ReadsAs b b') :
    ReadsAs (a ++ b) (a' ++ b') := by
  obtain ⟨m, hm, first⟩ := ha
  obtain ⟨n, hn, second⟩ := hb
  refine ⟨m + n, by rw [List.length_append]; omega, fun fuel seen rest => ?_⟩
  rw [List.append_assoc, Nat.add_assoc, first, second, List.reverse_append, List.append_assoc]

theorem readsAs_nil : ReadsAs [] [] :=
  ⟨0, Nat.le_refl _, fun fuel seen rest => by rw [Nat.zero_add]; rfl⟩

theorem readsAs_byte {b : UInt8} (quote : b ≠ 34) (backslash : b ≠ 92) (control : 32 ≤ b) :
    ReadsAs [b] [b] := by
  refine ⟨1, Nat.le_refl _, fun fuel seen rest => ?_⟩
  rw [Nat.add_comm, List.singleton_append, content, if_neg quote, if_neg backslash,
    if_neg (UInt8.not_lt.2 control)]
  rfl

theorem readsAs_wide {bytes : List UInt8} (wide : ∀ b ∈ bytes, 128 ≤ b) : ReadsAs bytes bytes := by
  induction bytes with
  | nil => exact readsAs_nil
  | cons b bytes ih =>
    obtain ⟨first, wide⟩ := List.forall_mem_cons.1 wide
    have apart {n : UInt8} (h : n < 128) : b ≠ n := by
      rintro rfl
      exact UInt8.not_lt.2 first h
    have printable : 32 ≤ b := UInt8.le_trans (by decide) first
    exact (readsAs_byte (apart (by decide)) (apart (by decide)) printable).append (ih wide)

theorem readsAs_escape (escaped : List UInt8) {meant : List UInt8}
    (h : ∀ rest, escape (escaped ++ rest) = .ok (meant, rest)) : ReadsAs (92 :: escaped) meant := by
  refine ⟨1, by simp, fun fuel seen rest => ?_⟩
  rw [Nat.add_comm, List.cons_append, content, if_neg (by decide), if_pos rfl, h]
  rfl

/-- Two hexadecimal digits after zeros are read as the number that they spell. -/
theorem hexEscape_hexDigit {n : Nat} (h : n < 256) (rest : List UInt8) :
    hexEscape (48 :: 48 :: ([hexDigit (n / 16), hexDigit (n % 16)].flatMap String.utf8EncodeChar ++
      rest)) = .ok (n, rest) := by
  have digit : ∀ d < 16, ∃ b, String.utf8EncodeChar (hexDigit d) = [b] ∧ hexValue? b = some d := by
    intro d hd
    refine ⟨UInt8.ofNat (hexDigit d).toNat, ?_⟩
    revert d
    decide
  obtain ⟨a, ha, high⟩ := digit (n / 16) (by omega)
  obtain ⟨b, hb, low⟩ := digit (n % 16) (by omega)
  have zero : hexValue? 48 = some 0 := by decide
  simp only [List.flatMap_cons, List.flatMap_nil, ha, hb, List.append_nil, List.cons_append,
    List.nil_append, hexEscape, zero, high, low]
  rw [show ((0 * 16 + 0) * 16 + n / 16) * 16 + n % 16 = n by omega]

theorem readsAs_control {c : Char} (control : c.toNat < 32) :
    ReadsAs (['\\', 'u', '0', '0', hexDigit (c.toNat / 16), hexDigit (c.toNat % 16)].flatMap
      String.utf8EncodeChar) (String.utf8EncodeChar c) := by
  refine readsAs_escape (117 :: 48 :: 48 ::
    [hexDigit (c.toNat / 16), hexDigit (c.toNat % 16)].flatMap String.utf8EncodeChar)
    fun rest => ?_
  have value : codePoint (48 :: 48 :: ([hexDigit (c.toNat / 16), hexDigit (c.toNat % 16)].flatMap
      String.utf8EncodeChar ++ rest)) = .ok (c.toNat, rest) := by
    rw [codePoint, hexEscape_hexDigit (by omega)]
    change (if _ then _ else _) = _
    rw [if_neg (by omega), if_neg (by omega)]
  rw [List.cons_append, List.cons_append, List.cons_append, escape, if_pos rfl, value]
  change Except.ok (Text.toBytes (String.singleton (Char.ofNat c.toNat)), rest) = _
  rw [Char.ofNat_toNat, Text.toBytes_singleton]

/-- Whatever stands for a character is read as that character. -/
theorem readsAs_escapedChar (c : Char) :
    ReadsAs ((escapedChar c).flatMap String.utf8EncodeChar) (String.utf8EncodeChar c) := by
  by_cases letter : c ∈ ['"', '\\', '\x08', '\x0c', '\n', '\r', '\t']
  · simp only [List.mem_cons, List.not_mem_nil, or_false] at letter
    obtain rfl | rfl | rfl | rfl | rfl | rfl | rfl := letter
    · exact readsAs_escape [34] fun _ => rfl
    · exact readsAs_escape [92] fun _ => rfl
    · exact readsAs_escape [98] fun _ => rfl
    · exact readsAs_escape [102] fun _ => rfl
    · exact readsAs_escape [110] fun _ => rfl
    · exact readsAs_escape [114] fun _ => rfl
    · exact readsAs_escape [116] fun _ => rfl
  · simp only [List.mem_cons, List.not_mem_nil, or_false, not_or] at letter
    obtain ⟨quote, backslash, backspace, formFeed, lineFeed, carriageReturn, tab⟩ := letter
    rw [escapedChar, if_neg quote, if_neg backslash, if_neg backspace, if_neg formFeed,
      if_neg lineFeed, if_neg carriageReturn, if_neg tab]
    by_cases control : c.toNat < 32
    · rw [if_pos control]
      exact readsAs_control control
    rw [if_neg control, List.flatMap_singleton]
    by_cases wide : 128 ≤ c.toNat
    · exact readsAs_wide fun b hb => Text.le_of_mem_utf8EncodeChar wide hb
    rw [Text.utf8EncodeChar_of_lt (by omega)]
    have apart {d : Char} (ne : c ≠ d) (h : d.toNat < 128) :
        UInt8.ofNat c.toNat ≠ UInt8.ofNat d.toNat := by
      intro same
      have same := congrArg UInt8.toNat same
      rw [UInt8.toNat_ofNat', UInt8.toNat_ofNat'] at same
      exact ne (Char.toNat_inj.1 (by omega))
    refine readsAs_byte (apart quote (by decide)) (apart backslash (by decide)) ?_
    rw [UInt8.le_iff_toNat_le, UInt8.toNat_ofNat']
    change 32 ≤ _
    omega

/-- A printed string is read as it was. -/
theorem string_printed (s : String) (rest : List UInt8) :
    string ((s.toList.flatMap escapedChar).flatMap String.utf8EncodeChar ++ 34 :: rest) =
      .ok (s, rest) := by
  have all (cs : List Char) : ReadsAs ((cs.flatMap escapedChar).flatMap String.utf8EncodeChar)
      (cs.flatMap String.utf8EncodeChar) := by
    induction cs with
    | nil => exact readsAs_nil
    | cons c cs ih =>
      rw [List.flatMap_cons, List.flatMap_append]
      exact (readsAs_escapedChar c).append ih
  obtain ⟨steps, enough, reads⟩ := all s.toList
  rw [← Text.toBytes_eq_flatMap] at reads
  have room : steps + 1 ≤ ((s.toList.flatMap escapedChar).flatMap String.utf8EncodeChar ++
      34 :: rest).length + 1 := by
    rw [List.length_append]
    omega
  obtain ⟨fuel, same⟩ := Nat.exists_eq_add_of_le room
  rw [Nat.add_assoc, Nat.add_comm 1] at same
  rw [string, same, reads, List.append_nil, content, if_pos rfl, List.reverse_reverse]
  simp only [bind, Except.bind, Text.ofBytes?_toBytes]

end WidgetBindings.Json.Read
