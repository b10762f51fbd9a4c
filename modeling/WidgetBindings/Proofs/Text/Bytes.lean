import WidgetBindings.Text.Bytes

/-!
# The bytes of a text

* `toBytes_append`, `toBytes_ofList`: a text is encoded character by character;
* `ofBytes?_toBytes`: no text is lost on the way through bytes;
* `le_of_mem_utf8EncodeChar`: no byte of a wide character looks like one of ASCII.
-/

namespace WidgetBindings.Text

@[simp] theorem toBytes_append (s t : String) : toBytes (s ++ t) = toBytes s ++ toBytes t := by
  simp [toBytes]

theorem toBytes_eq_flatMap (s : String) : toBytes s = s.toList.flatMap String.utf8EncodeChar := by
  simp [toBytes, ← String.utf8Encode_toList, List.utf8Encode]

@[simp] theorem toBytes_ofList (cs : List Char) :
    toBytes (String.ofList cs) = cs.flatMap String.utf8EncodeChar := by
  rw [toBytes_eq_flatMap, String.toList_ofList]

@[simp] theorem toBytes_singleton (c : Char) :
    toBytes (String.singleton c) = String.utf8EncodeChar c := by
  simp [toBytes_eq_flatMap]

@[simp] theorem ofBytes?_toBytes (s : String) : ofBytes? (toBytes s) = some s := by
  have valid : s.toByteArray.IsValidUTF8 := s.isValidUTF8
  simp [ofBytes?, toBytes, String.fromUTF8?, valid, String.fromUTF8]

theorem utf8EncodeChar_of_lt {c : Char} (h : c.toNat < 128) :
    String.utf8EncodeChar c = [UInt8.ofNat c.toNat] := by
  have ascii : c.val.toNat ≤ 127 := Nat.le_of_lt_succ h
  rw [String.utf8EncodeChar, if_pos ascii, Char.toNat]

theorem le_of_mem_utf8EncodeChar {c : Char} (h : 128 ≤ c.toNat) {b : UInt8}
    (hb : b ∈ String.utf8EncodeChar c) : 128 ≤ b := by
  have wide : ¬c.val.toNat ≤ 127 := Nat.not_le.2 h
  rw [String.utf8EncodeChar, if_neg wide] at hb
  rw [UInt8.le_iff_toNat_le]
  -- Whether a character takes two, three or four bytes, each has its top bit set.
  split at hb
  · simp only [List.mem_cons, List.not_mem_nil, or_false] at hb
    obtain rfl | rfl := hb <;> simp <;> omega
  · split at hb
    · simp only [List.mem_cons, List.not_mem_nil, or_false] at hb
      obtain rfl | rfl | rfl := hb <;> simp <;> omega
    · simp only [List.mem_cons, List.not_mem_nil, or_false] at hb
      obtain rfl | rfl | rfl | rfl := hb <;> simp <;> omega

end WidgetBindings.Text
