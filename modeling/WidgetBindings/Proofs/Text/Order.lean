import Mathlib.Tactic.SplitIfs
import WidgetBindings.Proofs.Text.Bytes

/-!
# The order of texts is the order of their bytes

* `utf8EncodeChar_append_lt`: of two characters the lesser one is encoded by lesser bytes, whatever
  follows them;
* `toBytes_lt_iff`: so texts in the order of their characters are in the order of their bytes.
-/

namespace WidgetBindings.Text

/-- The lesser character is encoded by lesser bytes. Characters that take more bytes start with
greater ones, and those that take equally many are told apart by the first byte that differs. -/
theorem utf8EncodeChar_append_lt {c d : Char} (h : c < d) (xs ys : List UInt8) :
    String.utf8EncodeChar c ++ xs < String.utf8EncodeChar d ++ ys := by
  have less : c.val.toNat < d.val.toNat := h
  have top : d.val.toNat < 1114112 := by
    have valid := d.valid
    unfold UInt32.isValidChar Nat.isValidChar at valid
    omega
  unfold String.utf8EncodeChar
  generalize c.val.toNat = m at *
  generalize d.val.toNat = n at *
  dsimp only
  by_cases wide : m ≤ 65535
  · split_ifs <;>
      simp only [List.cons_append, List.nil_append, List.cons_lt_cons_iff, UInt8.lt_iff_toNat_lt,
        ← UInt8.toNat_inj, UInt8.toNat_ofNat'] <;> omega
  · rw [if_neg (by omega), if_neg (by omega), if_neg wide, if_neg (by omega), if_neg (by omega),
      if_neg (by omega)]
    simp only [List.cons_append, List.nil_append, List.cons_lt_cons_iff, UInt8.lt_iff_toNat_lt,
      ← UInt8.toNat_inj, UInt8.toNat_ofNat']
    simp (disch := omega) only [Nat.mod_eq_of_lt]
    by_cases first : m / 262144 = n / 262144
    · by_cases second : m / 4096 = n / 4096
      · by_cases third : m / 64 = n / 64 <;> omega
      · omega
    · omega

theorem flatMap_utf8EncodeChar_lt {cs ds : List Char} (h : cs < ds) :
    cs.flatMap String.utf8EncodeChar < ds.flatMap String.utf8EncodeChar := by
  induction cs generalizing ds with
  | nil =>
    cases ds with
    | nil => exact absurd h (List.lt_irrefl _)
    | cons d ds =>
      obtain ⟨b, bytes, same⟩ := List.exists_cons_of_ne_nil (String.utf8EncodeChar_ne_nil (c := d))
      rw [List.flatMap_cons, same]
      exact List.nil_lt_cons ..
  | cons c cs ih =>
    cases ds with
    | nil => exact absurd h (List.not_lt_nil _)
    | cons d ds =>
      rw [List.flatMap_cons, List.flatMap_cons]
      obtain first | ⟨rfl, others⟩ := List.cons_lt_cons_iff.1 h
      · exact utf8EncodeChar_append_lt first _ _
      · exact List.append_left_lt (ih others)

/-- Texts are in the order of their bytes. -/
theorem toBytes_lt_iff {s t : String} : toBytes s < toBytes t ↔ s < t := by
  have forth {s t : String} (h : s < t) : toBytes s < toBytes t := by
    rw [toBytes_eq_flatMap, toBytes_eq_flatMap]
    exact flatMap_utf8EncodeChar_lt (String.lt_iff.1 h)
  refine ⟨fun h => String.not_le.1 fun back => ?_, forth⟩
  by_cases less : t < s
  · exact List.lt_asymm h (forth less)
  · obtain rfl := String.le_antisymm back (String.not_lt.1 less)
    exact List.lt_irrefl _ h

end WidgetBindings.Text
