import Mathlib.Tactic.SplitIfs
import WidgetBindings.Proofs.Json.Grammar
import WidgetBindings.Proofs.Outcome

/-!
# Words and strings by the grammar

Both ways of going over a text, reading and passing over, take from its front what the grammar has
there, and what is read depends on nothing that comes after it.

* `skip_string_eq_ok_iff`: what is passed over is a string by the grammar, and each is passed over;
* `string_eq_ok_own`: what is read is one, and it is read again from the same bytes.
-/

namespace WidgetBindings.Json

open Read

variable {unread rest : List UInt8}

theorem word_eq_ok_iff {letters : List UInt8} :
    word letters unread = .ok rest ↔ unread = letters ++ rest := by
  induction letters generalizing unread with
  | nil => exact ⟨fun h => Except.ok.inj h, congrArg _⟩
  | cons letter letters ih =>
    cases unread with
    | nil => exact iff_of_false (by simp [word]) (by simp)
    | cons b unread =>
      rw [word]
      by_cases same : b = letter
      · rw [if_pos same, ih, same, List.cons_append, List.cons_inj_right]
      · rw [if_neg same]
        exact iff_of_false (by simp) (by simp [same])

/-! ## Strings -/

/-- Four digits are read as a number, whatever comes after them. -/
theorem hexEscape_of_hex {a b c d : UInt8} (hex : ∀ h ∈ [a, b, c, d], isHexDigit h) :
    ∃ value, ∀ rest, hexEscape (a :: b :: c :: d :: rest) = .ok (value, rest) := by
  simp only [List.forall_mem_cons, isHexDigit] at hex
  obtain ⟨ha, hb, hc, hd, _⟩ := hex
  obtain ⟨w, ha⟩ := Option.isSome_iff_exists.1 ha
  obtain ⟨x, hb⟩ := Option.isSome_iff_exists.1 hb
  obtain ⟨y, hc⟩ := Option.isSome_iff_exists.1 hc
  obtain ⟨z, hd⟩ := Option.isSome_iff_exists.1 hd
  exact ⟨((w * 16 + x) * 16 + y) * 16 + z, fun rest => by simp only [hexEscape, ha, hb, hc, hd]⟩

theorem hexEscape_eq_ok {value : Nat} (h : hexEscape unread = .ok (value, rest)) :
    ∃ a b c d, unread = a :: b :: c :: d :: rest ∧ ∀ h ∈ [a, b, c, d], isHexDigit h := by
  unfold hexEscape at h
  split at h
  · split at h
    · rename_i ha hb hc hd
      cases h
      exact ⟨_, _, _, _, rfl, by simp [isHexDigit, ha, hb, hc, hd]⟩
    · cases h
  · cases h

theorem escapedByte?_isSome_iff {letter : UInt8} :
    (escapedByte? letter).isSome ↔ letter ∈ [34, 92, 47, 98, 102, 110, 114, 116] := by
  unfold escapedByte?
  split_ifs with same b f n r t
  · exact iff_of_true rfl (by obtain rfl | rfl | rfl := same <;> decide)
  all_goals simp_all

theorem skip_escape_eq_ok (h : Skip.escape unread = .ok rest) :
    ∃ text, unread = text ++ rest ∧ ∀ more, IsString more → IsString (92 :: (text ++ more)) := by
  unfold Skip.escape at h
  split at h
  · cases h
  · rename_i letter behind
    split_ifs at h with code known
    · cases digits : hexEscape behind with
      | error e =>
        rw [digits] at h
        cases h
      | ok found =>
        rw [digits] at h
        cases h
        obtain ⟨a, b, c, d, rfl, hex⟩ := hexEscape_eq_ok digits
        exact ⟨[letter, a, b, c, d], rfl, fun more string => code ▸ .code hex string⟩
    · cases h
      exact ⟨[letter], rfl, fun more string => .escape (escapedByte?_isSome_iff.1 known) string⟩

theorem skip_content_eq_ok {fuel : Nat} (h : Skip.content fuel unread = .ok rest) :
    ∃ text, unread = text ++ rest ∧ IsString text := by
  induction fuel generalizing unread with
  | zero => cases h
  | succ fuel ih =>
    cases unread with
    | nil => cases h
    | cons b unread =>
      rw [Skip.content] at h
      split_ifs at h with quote backslash control
      · cases h
        exact ⟨[34], by rw [quote]; rfl, .close⟩
      · obtain ⟨behind, escaped, go⟩ := bind_eq_ok_iff.1 h
        obtain ⟨escape, rfl, string⟩ := skip_escape_eq_ok escaped
        obtain ⟨text, rfl, inner⟩ := ih go
        exact ⟨92 :: (escape ++ text), by simp [backslash], string text inner⟩
      · obtain ⟨text, rfl, string⟩ := ih h
        exact ⟨b :: text, rfl, .plain (UInt8.not_lt.1 control) quote backslash string⟩

theorem skip_content_of_isString {text : List UInt8} (h : IsString text) {fuel : Nat}
    (enough : text.length ≤ fuel) (rest : List UInt8) :
    Skip.content fuel (text ++ rest) = .ok rest := by
  induction h generalizing fuel with
  | close =>
    obtain ⟨fuel, rfl⟩ := Nat.exists_eq_succ_of_ne_zero (Nat.ne_zero_of_lt enough)
    rfl
  | @plain b bytes visible quote backslash _ ih =>
    obtain ⟨fuel, rfl⟩ := Nat.exists_eq_succ_of_ne_zero (Nat.ne_zero_of_lt enough)
    rw [List.cons_append, Skip.content, if_neg quote, if_neg backslash,
      if_neg (UInt8.not_lt.2 visible)]
    exact ih (Nat.le_of_succ_le_succ enough)
  | @escape letter bytes known _ ih =>
    obtain ⟨fuel, rfl⟩ := Nat.exists_eq_succ_of_ne_zero (Nat.ne_zero_of_lt enough)
    have code : letter ≠ 117 := by
      rintro rfl
      exact absurd known (by decide)
    have escaped : Skip.escape (letter :: (bytes ++ rest)) = .ok (bytes ++ rest) := by
      rw [Skip.escape, if_neg code, if_pos (escapedByte?_isSome_iff.2 known)]
    rw [List.cons_append, List.cons_append, Skip.content, if_neg (by decide), if_pos rfl, escaped]
    simp only [List.length_cons] at enough
    exact ih (by omega)
  | @code a b c d bytes hex _ ih =>
    obtain ⟨fuel, rfl⟩ := Nat.exists_eq_succ_of_ne_zero (Nat.ne_zero_of_lt enough)
    obtain ⟨value, digits⟩ := hexEscape_of_hex hex
    have escaped : Skip.escape (117 :: a :: b :: c :: d :: (bytes ++ rest)) =
        .ok (bytes ++ rest) := by
      rw [Skip.escape, if_pos rfl, digits]
      rfl
    change Skip.content (fuel + 1) (92 :: 117 :: a :: b :: c :: d :: (bytes ++ rest)) = _
    rw [Skip.content, if_neg (by decide), if_pos rfl, escaped]
    simp only [List.length_cons] at enough
    exact ih (by omega)

theorem skip_string_eq_ok_iff : Skip.string unread = .ok rest ↔
    ∃ text, unread = text ++ rest ∧ IsString text := by
  constructor
  · exact skip_content_eq_ok
  · rintro ⟨text, rfl, string⟩
    refine skip_content_of_isString string ?_ rest
    rw [List.length_append]
    omega

/-- The second half of a character is an escape of its own. -/
theorem lowSurrogate_eq_ok_own {high value : Nat}
    (h : lowSurrogate high unread = .ok (value, rest)) :
    ∃ text, unread = text ++ rest ∧ (∀ more, IsString more → IsString (text ++ more)) ∧
      ∀ others, lowSurrogate high (text ++ others) = .ok (value, others) := by
  unfold lowSurrogate at h
  split at h
  · cases h
  · split_ifs at h with backslash
    split at h
    · cases h
    · split_ifs at h with letter
      obtain rfl := Decidable.not_not.1 backslash
      obtain rfl := Decidable.not_not.1 letter
      obtain ⟨⟨low, behind⟩, digits, go⟩ := bind_eq_ok_iff.1 h
      simp only at go
      split_ifs at go with second
      obtain ⟨rfl, rfl⟩ := Prod.mk.inj (Except.ok.inj go)
      obtain ⟨a, b, c, d, rfl, hex⟩ := hexEscape_eq_ok digits
      obtain ⟨found, again⟩ := hexEscape_of_hex hex
      rw [again] at digits
      cases digits
      refine ⟨[92, 117, a, b, c, d], rfl, fun more string => .code hex string, fun others => ?_⟩
      change lowSurrogate high (92 :: 117 :: a :: b :: c :: d :: others) = _
      rw [lowSurrogate, if_neg (not_not_intro rfl)]
      simp only
      rw [if_neg (not_not_intro rfl), again]
      exact if_pos second

theorem codePoint_eq_ok_own {value : Nat} (h : codePoint unread = .ok (value, rest)) :
    ∃ text, unread = text ++ rest ∧
      (∀ more, IsString more → IsString (92 :: 117 :: (text ++ more))) ∧
      ∀ others, codePoint (text ++ others) = .ok (value, others) := by
  obtain ⟨⟨first, behind⟩, digits, go⟩ := bind_eq_ok_iff.1 h
  obtain ⟨a, b, c, d, rfl, hex⟩ := hexEscape_eq_ok digits
  obtain ⟨found, again⟩ := hexEscape_of_hex hex
  rw [again] at digits
  cases digits
  simp only at go
  split_ifs at go with low high
  · obtain ⟨text, rfl, string, second⟩ := lowSurrogate_eq_ok_own go
    refine ⟨a :: b :: c :: d :: text, rfl, fun more inner => .code hex (string more inner),
      fun others => ?_⟩
    change codePoint (a :: b :: c :: d :: (text ++ others)) = _
    simp only [codePoint, again, bind, Except.bind, if_neg low, if_pos high, second]
  · cases go
    refine ⟨[a, b, c, d], rfl, fun more inner => .code hex inner, fun others => ?_⟩
    change codePoint (a :: b :: c :: d :: others) = _
    simp only [codePoint, again, bind, Except.bind, if_neg low, if_neg high]

/-- An escape that is read stands for the same bytes wherever it stands. Two escapes may be read for
one character. -/
theorem escape_eq_ok_own {bytes : List UInt8} (h : Read.escape unread = .ok (bytes, rest)) :
    ∃ text, unread = text ++ rest ∧ (∀ more, IsString more → IsString (92 :: (text ++ more))) ∧
      ∀ others, Read.escape (text ++ others) = .ok (bytes, others) := by
  unfold Read.escape at h
  split at h
  · cases h
  · rename_i letter behind
    split_ifs at h with code
    · obtain ⟨⟨value, after⟩, point, go⟩ := bind_eq_ok_iff.1 h
      cases go
      obtain ⟨text, rfl, string, again⟩ := codePoint_eq_ok_own point
      subst code
      refine ⟨117 :: text, rfl, string, fun others => ?_⟩
      rw [List.cons_append, Read.escape, if_pos rfl, again]
      rfl
    · split at h
      · rename_i b known
        cases h
        have listed := escapedByte?_isSome_iff.1 (Option.isSome_iff_exists.2 ⟨b, known⟩)
        refine ⟨[letter], rfl, fun more inner => .escape listed inner, fun others => ?_⟩
        change Read.escape (letter :: others) = _
        rw [Read.escape, if_neg code, known]
      · cases h

theorem content_eq_ok_own {fuel : Nat} {seen bytes : List UInt8}
    (h : content fuel seen unread = .ok (bytes, rest)) :
    ∃ text, unread = text ++ rest ∧ IsString text ∧ ∀ fuel others, text.length ≤ fuel →
      content fuel seen (text ++ others) = .ok (bytes, others) := by
  induction fuel generalizing seen unread with
  | zero => cases h
  | succ fuel ih =>
    cases unread with
    | nil => cases h
    | cons b unread =>
      rw [content] at h
      split_ifs at h with quote backslash control
      · cases h
        refine ⟨[34], by rw [quote]; rfl, .close, fun fuel others enough => ?_⟩
        obtain ⟨fuel, rfl⟩ := Nat.exists_eq_succ_of_ne_zero (Nat.ne_zero_of_lt enough)
        rfl
      · obtain ⟨⟨meant, behind⟩, escaped, go⟩ := bind_eq_ok_iff.1 h
        obtain ⟨letters, rfl, string, own⟩ := escape_eq_ok_own escaped
        obtain ⟨text, rfl, inner, again⟩ := ih go
        refine ⟨92 :: (letters ++ text), by simp [backslash], string text inner,
          fun fuel others enough => ?_⟩
        obtain ⟨fuel, rfl⟩ := Nat.exists_eq_succ_of_ne_zero (Nat.ne_zero_of_lt enough)
        rw [List.cons_append, List.append_assoc, content, if_neg (by decide), if_pos rfl, own]
        simp only [List.length_cons, List.length_append] at enough
        exact again fuel others (by omega)
      · obtain ⟨text, rfl, string, again⟩ := ih h
        refine ⟨b :: text, rfl, .plain (UInt8.not_lt.1 control) quote backslash string,
          fun fuel others enough => ?_⟩
        obtain ⟨fuel, rfl⟩ := Nat.exists_eq_succ_of_ne_zero (Nat.ne_zero_of_lt enough)
        rw [List.cons_append, content, if_neg quote, if_neg backslash, if_neg control]
        exact again fuel others (Nat.le_of_succ_le_succ enough)

/-- What is read as a string is one by the grammar, and is read again wherever it stands. -/
theorem string_eq_ok_own {text : String} (h : Read.string unread = .ok (text, rest)) :
    ∃ bytes, unread = bytes ++ rest ∧ IsString bytes ∧
      ∀ others, Read.string (bytes ++ others) = .ok (text, others) := by
  obtain ⟨⟨meant, behind⟩, read, decoded⟩ := bind_eq_ok_iff.1 h
  obtain ⟨bytes, rfl, string, again⟩ := content_eq_ok_own read
  simp only at decoded
  cases found : Text.ofBytes? meant with
  | none =>
    rw [found] at decoded
    cases decoded
  | some s =>
    rw [found] at decoded
    cases decoded
    refine ⟨bytes, rfl, string, fun others => ?_⟩
    have enough : bytes.length ≤ (bytes ++ others).length + 1 := by
      rw [List.length_append]
      omega
    rw [Read.string, again _ others enough]
    simp only [bind, Except.bind, found]

end WidgetBindings.Json
