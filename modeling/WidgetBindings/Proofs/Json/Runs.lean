import WidgetBindings.Proofs.Json.Magnitudes
import WidgetBindings.Proofs.Json.Values
import WidgetBindings.Proofs.Text.WellFormed

/-!
# How far words, strings and numbers reach

Reading takes bytes from the front. Those of a number or a word are of a few kinds
(`number_eq_ok`, `runs_word`); those of a string are well-formed (`Spelled.checks`), since a string
is checked as a whole once its escapes have been replaced by the characters they stand for.
-/

namespace WidgetBindings.Json

open Read

variable {unread between rest : List UInt8}

/-! ## Bytes on the way -/

/-- From one place to a later one there are only bytes of a kind. -/
def Runs (kind : UInt8 → Bool) (unread rest : List UInt8) : Prop :=
  ∃ text, unread = text ++ rest ∧ ∀ b ∈ text, kind b

theorem Runs.refl (kind : UInt8 → Bool) (unread : List UInt8) : Runs kind unread unread :=
  ⟨[], rfl, fun _ h => by cases h⟩

theorem Runs.cons {kind : UInt8 → Bool} {b : UInt8} (h : kind b) (run : Runs kind unread rest) :
    Runs kind (b :: unread) rest := by
  obtain ⟨text, rfl, all⟩ := run
  exact ⟨b :: text, rfl, List.forall_mem_cons.2 ⟨h, all⟩⟩

theorem Runs.trans {kind : UInt8 → Bool} (first : Runs kind unread between)
    (second : Runs kind between rest) : Runs kind unread rest := by
  obtain ⟨text, rfl, all⟩ := first
  obtain ⟨more, rfl, others⟩ := second
  exact ⟨text ++ more, (List.append_assoc ..).symm, List.forall_mem_append.2 ⟨all, others⟩⟩

theorem Runs.length_le {kind : UInt8 → Bool} (run : Runs kind unread rest) :
    rest.length ≤ unread.length := by
  obtain ⟨text, rfl, _⟩ := run
  simp

theorem runs_dropWhile (kind : UInt8 → Bool) (unread : List UInt8) :
    Runs kind unread (unread.dropWhile kind) :=
  ⟨unread.takeWhile kind, List.takeWhile_append_dropWhile.symm,
    List.all_eq_true.1 List.all_takeWhile⟩

/-- From one place to a later one the bytes are well-formed. -/
def Checks (unread rest : List UInt8) : Prop :=
  ∃ text, unread = text ++ rest ∧ Text.WellFormed text

theorem Checks.refl (unread : List UInt8) : Checks unread unread :=
  ⟨[], rfl, Text.wellFormed_nil⟩

theorem Checks.trans (first : Checks unread between) (second : Checks between rest) :
    Checks unread rest := by
  obtain ⟨text, rfl, formed⟩ := first
  obtain ⟨more, rfl, others⟩ := second
  exact ⟨text ++ more, (List.append_assoc ..).symm, formed.append others⟩

theorem Checks.cons {b : UInt8} (ascii : b < 128) (h : Checks unread rest) :
    Checks (b :: unread) rest := by
  obtain ⟨text, rfl, formed⟩ := h
  exact ⟨b :: text, rfl, formed.cons ascii⟩

theorem Checks.length_le (h : Checks unread rest) : rest.length ≤ unread.length := by
  obtain ⟨text, rfl, _⟩ := h
  simp

theorem Runs.checks {kind : UInt8 → Bool} (ascii : ∀ b, kind b → b < 128)
    (run : Runs kind unread rest) : Checks unread rest := by
  obtain ⟨text, same, all⟩ := run
  exact ⟨text, same, Text.wellFormed_of_ascii fun b hb => ascii b (all b hb)⟩

theorem lt_of_kind {kind : UInt8 → Bool}
    (all : ∀ n < 256, kind (UInt8.ofNat n) → UInt8.ofNat n < 128) {b : UInt8} (h : kind b) :
    b < 128 := by
  have each := all b.toNat b.toNat_lt
  rw [UInt8.ofNat_toNat] at each
  exact each h

theorem lt_of_isBlankByte {b : UInt8} (h : isBlankByte b) : b < 128 :=
  lt_of_kind (by decide +kernel) h

/-! ## Strings -/

/-- Whether a byte stands for a character by itself. -/
def isAscii (b : UInt8) : Bool := b < 128

theorem isAscii_of_isDigit {b : UInt8} (h : isDigit b) : isAscii b := by
  simp only [isDigit, Bool.and_eq_true, decide_eq_true_eq] at h
  exact decide_eq_true (UInt8.lt_of_le_of_lt h.2 (by decide))

theorem isAscii_of_hexValue? {b : UInt8} {n : Nat} (h : hexValue? b = some n) : isAscii b := by
  unfold hexValue? at h
  split at h
  · rename_i digit
    exact isAscii_of_isDigit digit
  · split at h
    · rename_i small
      simp only [Bool.and_eq_true, decide_eq_true_eq] at small
      exact decide_eq_true (UInt8.lt_of_le_of_lt small.2 (by decide))
    · split at h
      · rename_i capital
        simp only [Bool.and_eq_true, decide_eq_true_eq] at capital
        exact decide_eq_true (UInt8.lt_of_le_of_lt capital.2 (by decide))
      · cases h

theorem runs_hexEscape {value : Nat} (h : hexEscape unread = .ok (value, rest)) :
    Runs isAscii unread rest := by
  unfold hexEscape at h
  split at h
  · split at h
    · rename_i ha hb hc hd
      cases h
      exact .cons (isAscii_of_hexValue? ha) (.cons (isAscii_of_hexValue? hb)
        (.cons (isAscii_of_hexValue? hc) (.cons (isAscii_of_hexValue? hd) (.refl ..))))
    · cases h
  · cases h

theorem runs_lowSurrogate {high value : Nat} (h : lowSurrogate high unread = .ok (value, rest)) :
    Runs isAscii unread rest := by
  unfold lowSurrogate at h
  split at h
  · cases h
  · split_ifs at h with backslash
    split at h
    · cases h
    · split_ifs at h with letter
      obtain ⟨⟨low, between⟩, escape, h⟩ := bind_eq_ok_iff.1 h
      have stays : between = rest := by
        by_cases second : 0xDC00 ≤ low ∧ low ≤ 0xDFFF
        · exact congrArg Prod.snd (Except.ok.inj ((if_pos second).symm.trans h))
        · cases (if_neg second).symm.trans h
      rw [Decidable.not_not.1 backslash, Decidable.not_not.1 letter, ← stays]
      exact .cons rfl (.cons rfl (runs_hexEscape escape))

theorem runs_codePoint {value : Nat} (h : codePoint unread = .ok (value, rest)) :
    Runs isAscii unread rest := by
  obtain ⟨⟨high, between⟩, first, h⟩ := bind_eq_ok_iff.1 h
  have run := runs_hexEscape first
  simp only at h
  split at h
  · cases h
  · split at h
    · exact run.trans (runs_lowSurrogate h)
    · cases h
      exact run

theorem isAscii_of_escapedByte? {letter b : UInt8} (h : escapedByte? letter = some b) :
    isAscii letter ∧ isAscii b := by
  unfold escapedByte? at h
  split_ifs at h with same bs ff nl cr tab
  · cases h
    obtain rfl | rfl | rfl := same
    · exact ⟨rfl, rfl⟩
    · exact ⟨rfl, rfl⟩
    · exact ⟨rfl, rfl⟩
  all_goals
    cases h
    subst letter
    exact ⟨rfl, rfl⟩

/-- An escape is written in ASCII and stands for a character. -/
theorem escape_eq_ok {bytes : List UInt8} (h : escape unread = .ok (bytes, rest)) :
    Runs isAscii unread rest ∧ ∃ c, bytes = String.utf8EncodeChar c := by
  unfold escape at h
  split at h
  · cases h
  · split at h
    · rename_i letter
      obtain ⟨⟨value, _⟩, point, h⟩ := bind_eq_ok_iff.1 h
      cases h
      exact ⟨.cons (letter ▸ rfl) (runs_codePoint point), _, Text.toBytes_singleton _⟩
    · split at h
      · rename_i b found
        cases h
        obtain ⟨letter, ascii⟩ := isAscii_of_escapedByte? found
        exact ⟨.cons letter (.refl ..), Char.ofNat b.toNat,
          (Text.utf8EncodeChar_ofNat (by simpa [isAscii] using ascii)).symm⟩
      · cases h

/-- What stands for a string is well-formed wherever its own bytes are: an escape stands for a whole
character. -/
theorem content_checks {fuel : Nat} {seen bytes : List UInt8}
    (h : content fuel seen unread = .ok (bytes, rest)) :
    ∃ text meant, unread = text ++ 34 :: rest ∧ bytes = seen.reverse ++ meant ∧
      ∀ front, Text.WellFormed (front ++ meant) → Text.WellFormed (front ++ text) := by
  induction fuel generalizing seen unread with
  | zero => cases h
  | succ fuel ih =>
    cases unread with
    | nil => cases h
    | cons b unread =>
      rw [content] at h
      split at h
      · rename_i quote
        cases h
        exact ⟨[], [], by rw [quote]; rfl, (List.append_nil _).symm, fun _ formed => formed⟩
      · split at h
        · rename_i backslash
          obtain ⟨⟨_, between⟩, escaped, h⟩ := bind_eq_ok_iff.1 h
          obtain ⟨⟨letters, rfl, ascii⟩, c, rfl⟩ := escape_eq_ok escaped
          obtain ⟨text, meant, rfl, rfl, formed⟩ := ih h
          refine ⟨92 :: (letters ++ text), String.utf8EncodeChar c ++ meant, by simp [backslash],
            by simp, fun front whole => ?_⟩
          obtain ⟨before, after⟩ := whole.around
          have letters : Text.WellFormed (92 :: letters) :=
            (Text.wellFormed_of_ascii fun b hb => by simpa [isAscii] using ascii b hb).cons
              (by decide)
          exact before.append (letters.append (formed [] after))
        · split at h
          · cases h
          · obtain ⟨text, meant, rfl, rfl, formed⟩ := ih h
            refine ⟨b :: text, b :: meant, rfl, by simp, fun front whole => ?_⟩
            have next := formed (front ++ [b])
            simp only [List.append_assoc, List.singleton_append] at next
            exact next whole

/-- A string that has been read reaches so far. -/
def Spelled (unread rest : List UInt8) : Prop :=
  ∃ text, Read.string unread = .ok (text, rest)

theorem Spelled.checks (h : Spelled unread rest) : Checks unread rest := by
  obtain ⟨text, read⟩ := h
  obtain ⟨⟨bytes, between⟩, read, decoded⟩ := bind_eq_ok_iff.1 read
  obtain ⟨raw, meant, rfl, rfl, formed⟩ := content_checks read
  simp only at decoded
  split at decoded
  · rename_i text valid
    cases decoded
    have whole := Text.wellFormed_iff.2 (by rw [valid]; rfl)
    have raw_formed := formed [] whole
    exact ⟨raw ++ [34], by simp, raw_formed.append (Text.wellFormed_nil.cons (by decide))⟩
  · cases decoded

/-! ## Words and numbers -/

/-- The bytes of numbers and of the words for null and the truth values. -/
def isBareByte (b : UInt8) : Bool :=
  isDigit b || (97 ≤ b && b ≤ 122) || b = 43 || b = 45 || b = 46 || b = 69

theorem lt_of_isBareByte {b : UInt8} (h : isBareByte b) : b < 128 :=
  lt_of_kind (by decide +kernel) h

theorem isBareByte_of_isDigit {b : UInt8} (h : isDigit b) : isBareByte b := by
  simp [isBareByte, h]

theorem runs_word {letters : List UInt8} (bare : ∀ b ∈ letters, isBareByte b)
    (h : word letters unread = .ok rest) : Runs isBareByte unread rest :=
  ⟨letters, word_eq_ok_iff.1 h, bare⟩

theorem IsDigits.bare {digits : List UInt8} (h : IsDigits digits) : ∀ b ∈ digits, isBareByte b :=
  fun b hb => isBareByte_of_isDigit (h.2 b hb)

theorem IsMagnitude.bare {text : List UInt8} (h : IsMagnitude text) : ∀ b ∈ text, isBareByte b := by
  cases h with
  | of whole fraction exponent =>
    refine List.forall_mem_append.2 ⟨?_, List.forall_mem_append.2 ⟨?_, ?_⟩⟩
    · cases whole with
      | zero => decide +kernel
      | digits first _ others =>
        exact List.forall_mem_cons.2 ⟨isBareByte_of_isDigit first,
          fun b hb => isBareByte_of_isDigit (others b hb)⟩
    · cases fraction with
      | none => exact fun _ h => by cases h
      | digits digits => exact List.forall_mem_cons.2 ⟨rfl, digits.bare⟩
    · cases exponent with
      | none => exact fun _ h => by cases h
      | power marked signed digits =>
        refine List.forall_mem_cons.2 ⟨?_, List.forall_mem_append.2 ⟨?_, digits.bare⟩⟩
        · obtain rfl | rfl := marked <;> rfl
        · simp only [List.mem_cons, List.not_mem_nil, or_false] at signed
          obtain rfl | rfl | rfl := signed <;> decide +kernel

/-- A number begins with a digit. -/
theorem number_eq_ok {positive : Bool} {n : Number}
    (h : Read.number positive unread = .ok (n, rest)) :
    ∃ b between, unread = b :: between ∧ isBareByte b ∧ Runs isBareByte between rest := by
  obtain ⟨text, rfl, magnitude, _⟩ := number_eq_ok_own h
  have bare := magnitude.bare
  obtain ⟨b, others, rfl, _⟩ := magnitude.exists_cons
  obtain ⟨first, bare⟩ := List.forall_mem_cons.1 bare
  exact ⟨b, others ++ rest, rfl, first, others, rfl, bare⟩

end WidgetBindings.Json
