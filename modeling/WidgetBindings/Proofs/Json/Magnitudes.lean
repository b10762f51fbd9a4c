import WidgetBindings.Proofs.Json.Tokens

/-!
# Numbers by the grammar

What is passed over as a number is one by the grammar (`skip_number_eq_ok_own`), and each is passed
over if nothing follows that could go on with it (`skip_number_of_isMagnitude`). What is read is a
number, too, and it is read again from the same bytes (`number_eq_ok_own`).
-/

namespace WidgetBindings.Json

open Read

variable {unread rest : List UInt8}

/-! ## Digits -/

theorem exists_digits (unread : List UInt8) :
    ∃ digits, unread = digits ++ skipDigits unread ∧ ∀ b ∈ digits, isDigit b :=
  ⟨unread.takeWhile isDigit, List.takeWhile_append_dropWhile.symm,
    List.all_eq_true.1 List.all_takeWhile⟩

theorem digits_of_digitNext (h : digitNext unread) :
    ∃ digits, unread = digits ++ skipDigits unread ∧ IsDigits digits := by
  cases unread with
  | nil => cases h
  | cons b unread =>
    have digit : isDigit b := by simpa [digitNext] using h
    obtain ⟨digits, same, all⟩ := exists_digits unread
    rw [skipDigits, List.dropWhile_cons_of_pos digit, ← skipDigits]
    exact ⟨b :: digits, congrArg (b :: ·) same, by simp, List.forall_mem_cons.2 ⟨digit, all⟩⟩

theorem skipDigits_append {digits : List UInt8} (all : ∀ b ∈ digits, isDigit b)
    (stops : digitNext rest = false) : skipDigits (digits ++ rest) = rest := by
  rw [skipDigits, List.dropWhile_append_of_pos all]
  cases rest with
  | nil => rfl
  | cons b rest =>
    have digit : isDigit b = false := by simpa [digitNext] using stops
    exact List.dropWhile_cons_of_neg (by simp [digit])

theorem IsDigits.exists_cons {digits : List UInt8} (h : IsDigits digits) :
    ∃ b others, digits = b :: others ∧ isDigit b ∧ ∀ c ∈ others, isDigit c := by
  obtain ⟨b, others, rfl⟩ := List.exists_cons_of_ne_nil h.1
  obtain ⟨first, others⟩ := List.forall_mem_cons.1 h.2
  exact ⟨b, _, rfl, first, others⟩

theorem IsDigits.next {digits : List UInt8} (h : IsDigits digits) (rest : List UInt8) :
    digitNext (digits ++ rest) = true := by
  obtain ⟨b, others, rfl, first, _⟩ := h.exists_cons
  exact first

/-! ## Numbers that are passed over -/

theorem skip_exponent_eq_ok (h : Skip.exponent unread = .ok rest) :
    ∃ sign digits, unread = sign ++ (digits ++ rest) ∧ sign ∈ [[], [43], [45]] ∧
      IsDigits digits := by
  unfold Skip.exponent at h
  simp only at h
  split_ifs at h with signed digit digit
  · cases h
    obtain ⟨b, head, sign⟩ := (Option.any_eq_true ..).1 signed
    obtain ⟨behind, rfl⟩ := List.head?_eq_some_iff.1 head
    obtain ⟨digits, same, all⟩ := digits_of_digitNext digit
    simp only [Bool.or_eq_true, decide_eq_true_eq] at sign
    exact ⟨[b], digits, congrArg (b :: ·) same, by obtain rfl | rfl := sign <;> simp, all⟩
  · cases h
    obtain ⟨digits, same, all⟩ := digits_of_digitNext digit
    exact ⟨[], digits, same, by simp, all⟩

theorem exists_mark (h : exponentNext unread) :
    ∃ mark behind, unread = mark :: behind ∧ (mark = 101 ∨ mark = 69) := by
  obtain ⟨mark, head, marked⟩ := (Option.any_eq_true ..).1 h
  obtain ⟨behind, rfl⟩ := List.head?_eq_some_iff.1 head
  exact ⟨mark, behind, rfl, by simpa using marked⟩

theorem skip_optionalExponent_eq_ok (h : Skip.optionalExponent unread = .ok rest) :
    ∃ text, unread = text ++ rest ∧ IsExponent text := by
  unfold Skip.optionalExponent at h
  split_ifs at h with next
  · obtain ⟨mark, behind, rfl, marked⟩ := exists_mark next
    obtain ⟨sign, digits, same, signed, all⟩ := skip_exponent_eq_ok h
    rw [List.drop_one, List.tail_cons] at same
    exact ⟨mark :: (sign ++ digits), by simp [same], .power marked signed all⟩
  · cases h
    exact ⟨[], rfl, .none⟩

theorem skip_afterDigits_eq_ok (h : Skip.afterDigits unread = .ok rest) :
    ∃ fraction exponent, unread = fraction ++ (exponent ++ rest) ∧ IsFraction fraction ∧
      IsExponent exponent := by
  unfold Skip.afterDigits at h
  split_ifs at h with point
  · obtain ⟨behind, rfl⟩ := List.head?_eq_some_iff.1 point
    unfold Skip.fraction at h
    rw [List.drop_one, List.tail_cons] at h
    split_ifs at h with digit
    obtain ⟨digits, same, all⟩ := digits_of_digitNext digit
    obtain ⟨exponent, power, spells⟩ := skip_optionalExponent_eq_ok h
    exact ⟨46 :: digits, exponent, by rw [← power, List.cons_append, ← same], .digits all, spells⟩
  · obtain ⟨exponent, power, spells⟩ := skip_optionalExponent_eq_ok h
    exact ⟨[], exponent, power, .none, spells⟩

theorem skip_exponent_of_isDigits {sign digits : List UInt8} (signed : sign ∈ [[], [43], [45]])
    (all : IsDigits digits) (ended : Ended rest) :
    Skip.exponent (sign ++ (digits ++ rest)) = .ok rest := by
  have next := all.next rest
  have past := skipDigits_append all.2 ended.no_number.1
  simp only [List.mem_cons, List.not_mem_nil, or_false] at signed
  obtain rfl | rfl | rfl := signed
  · have unsigned : ((digits ++ rest).head?.any fun b => b = 43 || b = 45) = false := by
      obtain ⟨b, others, rfl, first, _⟩ := all.exists_cons
      simp [ne_of_isDigit (c := 43) first rfl, ne_of_isDigit (c := 45) first rfl]
    simp only [Skip.exponent, List.nil_append, unsigned, Bool.false_eq_true, if_false]
    exact (if_pos next).trans (congrArg _ past)
  · exact (if_pos next).trans (congrArg _ past)
  · exact (if_pos next).trans (congrArg _ past)

theorem IsExponent.no_digit {exponent : List UInt8} (h : IsExponent exponent)
    (ended : Ended rest) :
    digitNext (exponent ++ rest) = false ∧ (exponent ++ rest).head? ≠ some 46 := by
  cases h with
  | none => exact ⟨ended.no_number.1, ended.no_number.2.2⟩
  | power marked => obtain rfl | rfl := marked <;> exact ⟨rfl, by simp⟩

theorem IsFraction.no_digit {fraction exponent : List UInt8} (h : IsFraction fraction)
    (power : IsExponent exponent) (ended : Ended rest) :
    digitNext (fraction ++ (exponent ++ rest)) = false := by
  cases h with
  | none => exact (power.no_digit ended).1
  | digits => rfl

theorem skip_optionalExponent_of_isExponent {exponent : List UInt8} (h : IsExponent exponent)
    (ended : Ended rest) : Skip.optionalExponent (exponent ++ rest) = .ok rest := by
  cases h with
  | none =>
    rw [List.nil_append, Skip.optionalExponent, if_neg (by simp [ended.no_number.2.1])]
  | power marked signed all =>
    have found := skip_exponent_of_isDigits signed all ended
    rw [List.cons_append, List.append_assoc, Skip.optionalExponent,
      if_pos (by obtain rfl | rfl := marked <;> rfl)]
    exact found

theorem skip_afterDigits_of_isFraction {fraction exponent : List UInt8} (h : IsFraction fraction)
    (power : IsExponent exponent) (ended : Ended rest) :
    Skip.afterDigits (fraction ++ (exponent ++ rest)) = .ok rest := by
  have past := skip_optionalExponent_of_isExponent power ended
  cases h with
  | none => rwa [List.nil_append, Skip.afterDigits, if_neg (power.no_digit ended).2]
  | digits all =>
    rw [List.cons_append, Skip.afterDigits, if_pos (by rfl), List.drop_one, List.tail_cons,
      Skip.fraction, if_pos (all.next _), skipDigits_append all.2 (power.no_digit ended).1, past]

theorem skip_number_of_isMagnitude {text : List UInt8} (h : IsMagnitude text)
    (ended : Ended rest) : Skip.number (text ++ rest) = .ok rest := by
  cases h with
  | @of whole fraction exponent whole fraction power =>
    have stops := fraction.no_digit power ended
    have past := skip_afterDigits_of_isFraction fraction power ended
    cases whole with
    | zero =>
      rw [List.append_assoc, List.append_assoc, List.cons_append, List.nil_append, Skip.number,
        if_pos rfl, if_neg (by simp [stops]), past]
    | digits first zero others =>
      rw [List.append_assoc, List.append_assoc, List.cons_append, Skip.number, if_neg zero,
        if_pos first, skipDigits_append others stops, past]

/-- What is passed over as a number is one by the grammar. -/
theorem skip_number_eq_ok_own (h : Skip.number unread = .ok rest) :
    ∃ text, unread = text ++ rest ∧ IsMagnitude text := by
  unfold Skip.number at h
  split at h
  · cases h
  · rename_i b behind
    split_ifs at h with zero digit digit
    · obtain ⟨fraction, exponent, rfl, spells, power⟩ := skip_afterDigits_eq_ok h
      exact ⟨48 :: (fraction ++ exponent), by simp [zero], .of .zero spells power⟩
    · obtain ⟨digits, same, all⟩ := exists_digits behind
      obtain ⟨fraction, exponent, after, spells, power⟩ := skip_afterDigits_eq_ok h
      refine ⟨(b :: digits) ++ (fraction ++ exponent), ?_,
        .of (.digits digit zero all) spells power⟩
      rw [same, after]
      simp

/-! ## Numbers that are read -/

section

variable {positive : Bool} {significand : Nat} {power : Int} {n : Number}

theorem digitsBelow_own {limit value taken total count : Nat}
    (h : digitsBelow limit value taken unread = (total, count, rest)) :
    ∃ digits, unread = digits ++ rest ∧ (∀ b ∈ digits, isDigit b) ∧
      count = taken + digits.length ∧
      ∀ others, digitNext others = false ∨ others.head? = rest.head? →
        digitsBelow limit value taken (digits ++ others) = (total, count, others) := by
  induction unread generalizing value taken with
  | nil =>
    cases h
    refine ⟨[], rfl, by simp, rfl, fun others stops => ?_⟩
    obtain stops | same := stops
    · exact digitsBelow_of_not_digit _ _ _ stops
    · rw [List.head?_nil, List.head?_eq_none_iff] at same
      rw [same]
      rfl
  | cons b unread ih =>
    rw [digitsBelow] at h
    split at h
    · rename_i more
      obtain ⟨digits, rfl, all, number, again⟩ := ih h
      have digit := (Bool.and_eq_true_iff.1 more).1
      refine ⟨b :: digits, rfl, List.forall_mem_cons.2 ⟨digit, all⟩, ?_, fun others stops => ?_⟩
      · rw [List.length_cons]
        omega
      · rw [List.cons_append, digitsBelow, if_pos more, again others stops]
    · rename_i full
      cases h
      refine ⟨[], rfl, by simp, rfl, fun others stops => ?_⟩
      obtain stops | same := stops
      · exact digitsBelow_of_not_digit _ _ _ stops
      · obtain ⟨others, rfl⟩ := List.head?_eq_some_iff.1 same
        rw [List.nil_append, digitsBelow, if_neg full]

theorem float_eq_ok_own (h : float positive significand power unread = .ok (n, rest)) :
    unread = rest ∧ ∀ others, float positive significand power others = .ok (n, others) := by
  unfold float at h ⊢
  cases found : scaled? significand power with
  | none =>
    rw [found] at h
    cases h
  | some value =>
    rw [found] at h
    cases h
    exact ⟨rfl, fun _ => rfl⟩

/-- What an exponent gives from its first digit on. -/
def exponentFrom (positive : Bool) (significand : Nat) (power : Int) (up : Bool) (b : UInt8)
    (unread : List UInt8) : Except Fault (Number × List UInt8) :=
  let found := digitsBelow exponentLimit (digitValue b) 0 unread
  if digitNext found.2.2 then
    if significand ≠ 0 ∧ up then .error (.before .numberOutOfRange (found.2.2.drop 1))
    else .ok (signed positive 0.0, skipDigits found.2.2)
  else float positive significand (if up then power + found.1 else power - found.1) found.2.2

theorem exponent_of_sign {sign : List UInt8} (signed : sign ∈ [[], [43], [45]]) {b : UInt8}
    (digit : isDigit b) (unread : List UInt8) :
    exponent positive significand power (sign ++ b :: unread) =
      exponentFrom positive significand power (decide (sign ≠ [45])) b unread := by
  simp only [List.mem_cons, List.not_mem_nil, or_false] at signed
  obtain rfl | rfl | rfl := signed
  · rw [List.nil_append, exponent]
    simp [ne_of_isDigit (c := 43) digit rfl, ne_of_isDigit (c := 45) digit rfl, digit,
      exponentFrom]
  · exact if_pos digit
  · exact if_pos digit

theorem exists_sign (h : exponent positive significand power unread = .ok (n, rest)) :
    ∃ sign b behind, unread = sign ++ b :: behind ∧ sign ∈ [[], [43], [45]] ∧ isDigit b := by
  unfold exponent at h
  split at h
  rename_i up between found
  have front : ∃ sign, unread = sign ++ between ∧ sign ∈ [[], [43], [45]] := by
    split at found
    · split_ifs at found with plus minus
      · cases found
        exact ⟨[43], by rw [plus]; rfl, by simp⟩
      · cases found
        exact ⟨[45], by rw [minus]; rfl, by simp⟩
      · cases found
        exact ⟨[], rfl, by simp⟩
    · cases found
      exact ⟨[], rfl, by simp⟩
  obtain ⟨sign, rfl, signed⟩ := front
  split at h
  · cases h
  · rename_i b behind
    by_cases digit : isDigit b
    · exact ⟨sign, b, behind, rfl, signed, digit⟩
    · rw [if_neg digit] at h
      cases h

theorem exponentFrom_eq_ok_own {up : Bool} {b : UInt8}
    (h : exponentFrom positive significand power up b unread = .ok (n, rest)) :
    ∃ digits, unread = digits ++ rest ∧ (∀ b ∈ digits, isDigit b) ∧ ∀ others, Ended others →
      exponentFrom positive significand power up b (digits ++ others) = .ok (n, others) := by
  unfold exponentFrom at h
  rcases found : digitsBelow exponentLimit (digitValue b) 0 unread with ⟨value, taken, behind⟩
  obtain ⟨digits, rfl, all, _, again⟩ := digitsBelow_own found
  rw [found] at h
  simp only at h
  split at h
  · rename_i more
    split at h
    · cases h
    · rename_i finite
      cases h
      obtain ⟨further, same, each⟩ := digits_of_digitNext more
      refine ⟨digits ++ further, by rw [List.append_assoc, ← same],
        List.forall_mem_append.2 ⟨all, each.2⟩, fun others ended => ?_⟩
      have head : (further ++ others).head? = behind.head? := by
        obtain ⟨b, _, rfl, _⟩ := each.exists_cons
        rw [same]
        rfl
      rw [List.append_assoc, exponentFrom, again _ (.inr head)]
      simp only [each.next, if_true, if_neg finite, skipDigits_append each.2 ended.no_number.1]
  · obtain ⟨rfl, float⟩ := float_eq_ok_own h
    refine ⟨digits, rfl, all, fun others ended => ?_⟩
    rw [exponentFrom, again _ (.inl ended.no_number.1)]
    simp only [ended.no_number.1, Bool.false_eq_true, if_false, float]

theorem exponent_eq_ok_own (h : exponent positive significand power unread = .ok (n, rest)) :
    ∃ sign digits, unread = sign ++ (digits ++ rest) ∧ sign ∈ [[], [43], [45]] ∧
      IsDigits digits ∧ ∀ others, Ended others →
        exponent positive significand power (sign ++ (digits ++ others)) = .ok (n, others) := by
  obtain ⟨sign, b, behind, rfl, signed, digit⟩ := exists_sign h
  rw [exponent_of_sign signed digit] at h
  obtain ⟨digits, rfl, all, again⟩ := exponentFrom_eq_ok_own h
  refine ⟨sign, b :: digits, rfl, signed, ⟨by simp, List.forall_mem_cons.2 ⟨digit, all⟩⟩,
    fun others ended => ?_⟩
  rw [List.cons_append, exponent_of_sign signed digit, again others ended]

theorem optionalExponent_eq_ok_own
    (h : optionalExponent positive significand power unread = .ok (n, rest)) :
    ∃ text, unread = text ++ rest ∧ IsExponent text ∧ ∀ others, Ended others →
      optionalExponent positive significand power (text ++ others) = .ok (n, others) := by
  unfold optionalExponent at h
  split_ifs at h with next
  · obtain ⟨mark, behind, rfl, marked⟩ := exists_mark next
    rw [List.drop_one, List.tail_cons] at h
    obtain ⟨sign, digits, rfl, signed, all, again⟩ := exponent_eq_ok_own h
    refine ⟨mark :: (sign ++ digits), by simp, .power marked signed all, fun others ended => ?_⟩
    rw [List.cons_append, List.append_assoc, optionalExponent, if_pos (by exact next)]
    exact again others ended
  · obtain ⟨rfl, float⟩ := float_eq_ok_own h
    refine ⟨[], rfl, .none, fun others ended => ?_⟩
    rw [List.nil_append, optionalExponent, if_neg (by simp [ended.no_number.2.1]), float]

theorem fraction_eq_ok_own (h : fraction positive significand power unread = .ok (n, rest)) :
    ∃ digits exponent, unread = digits ++ (exponent ++ rest) ∧ IsDigits digits ∧
      IsExponent exponent ∧ ∀ others, Ended others →
        fraction positive significand power (digits ++ (exponent ++ others)) = .ok (n, others) := by
  unfold fraction at h
  rcases found : digitsBelow significandLimit significand 0 unread with ⟨value, taken, behind⟩
  obtain ⟨digits, rfl, all, count, again⟩ := digitsBelow_own found
  rw [found] at h
  simp only at h
  split_ifs at h with more none
  · obtain ⟨further, same, each⟩ := digits_of_digitNext more
    obtain ⟨exponent, after, spells, power⟩ := optionalExponent_eq_ok_own h
    refine ⟨digits ++ further, exponent, by rw [List.append_assoc, ← after, ← same],
      ⟨by simp [each.1], List.forall_mem_append.2 ⟨all, each.2⟩⟩, spells, fun others ended => ?_⟩
    have head : (further ++ (exponent ++ others)).head? = behind.head? := by
      obtain ⟨b, _, rfl, _⟩ := each.exists_cons
      rw [same]
      rfl
    rw [List.append_assoc, fraction, again _ (.inr head)]
    simp only [each.next, if_true, skipDigits_append each.2 (spells.no_digit ended).1,
      power others ended]
  · obtain ⟨exponent, rfl, spells, power⟩ := optionalExponent_eq_ok_own h
    have some : digits ≠ [] := by
      rintro rfl
      exact none count
    refine ⟨digits, exponent, rfl, ⟨some, all⟩, spells, fun others ended => ?_⟩
    rw [fraction, again _ (.inl (spells.no_digit ended).1)]
    simp only [(spells.no_digit ended).1, Bool.false_eq_true, if_false, if_neg none,
      power others ended]

theorem afterDigits_eq_ok_own (h : afterDigits positive significand unread = .ok (n, rest)) :
    ∃ fraction exponent, unread = fraction ++ (exponent ++ rest) ∧ IsFraction fraction ∧
      IsExponent exponent ∧ ∀ others, Ended others →
        afterDigits positive significand (fraction ++ (exponent ++ others)) = .ok (n, others) := by
  unfold afterDigits at h
  split_ifs at h with point next
  · obtain ⟨behind, rfl⟩ := List.head?_eq_some_iff.1 point
    rw [List.drop_one, List.tail_cons] at h
    obtain ⟨digits, exponent, rfl, all, spells, again⟩ := fraction_eq_ok_own h
    refine ⟨46 :: digits, exponent, rfl, .digits all, spells, fun others ended => ?_⟩
    rw [List.cons_append, afterDigits, if_pos (by rfl)]
    exact again others ended
  · obtain ⟨mark, behind, rfl, marked⟩ := exists_mark next
    rw [List.drop_one, List.tail_cons] at h
    obtain ⟨sign, digits, rfl, signed, all, again⟩ := exponent_eq_ok_own h
    refine ⟨[], mark :: (sign ++ digits), by simp, .none, .power marked signed all,
      fun others ended => ?_⟩
    rw [List.nil_append, List.cons_append, List.append_assoc, afterDigits, if_neg (by exact point),
      if_pos (by exact next)]
    exact again others ended
  · cases h
    refine ⟨[], [], rfl, .none, .none, fun others ended => ?_⟩
    exact afterDigits_ended positive significand ended

theorem digitNext_skipDigits (unread : List UInt8) : digitNext (skipDigits unread) = false := by
  induction unread with
  | nil => rfl
  | cons b unread ih =>
    by_cases digit : isDigit b
    · rwa [skipDigits, List.dropWhile_cons_of_pos digit]
    · rw [skipDigits, List.dropWhile_cons_of_neg digit]
      exact eq_false_of_ne_true digit

theorem afterFullDigits_append {digits : List UInt8} (all : ∀ b ∈ digits, isDigit b)
    (stops : digitNext unread = false) : afterFullDigits positive significand (digits ++ unread) =
      if unread.head? = some 46 then
        fraction positive significand digits.length (unread.drop 1)
      else optionalExponent positive significand digits.length unread := by
  simp only [afterFullDigits, skipDigits_append all stops, List.length_append,
    Nat.add_sub_cancel]

theorem afterFullDigits_eq_ok_own (more : digitNext unread)
    (h : afterFullDigits positive significand unread = .ok (n, rest)) :
    ∃ digits fraction exponent, unread = digits ++ (fraction ++ (exponent ++ rest)) ∧
      IsDigits digits ∧ IsFraction fraction ∧ IsExponent exponent ∧
      ∀ others, Ended others → afterFullDigits positive significand
        (digits ++ (fraction ++ (exponent ++ others))) = .ok (n, others) := by
  obtain ⟨digits, same, all⟩ := digits_of_digitNext more
  have stops := digitNext_skipDigits unread
  generalize skipDigits unread = behind at same stops
  subst same
  rw [afterFullDigits_append all.2 stops] at h
  split_ifs at h with point
  · obtain ⟨behind, rfl⟩ := List.head?_eq_some_iff.1 point
    rw [List.drop_one, List.tail_cons] at h
    obtain ⟨further, exponent, rfl, each, spells, again⟩ := fraction_eq_ok_own h
    refine ⟨digits, 46 :: further, exponent, rfl, all, .digits each, spells,
      fun others ended => ?_⟩
    rw [afterFullDigits_append all.2 (by rfl), List.cons_append, if_pos (by rfl)]
    exact again others ended
  · obtain ⟨exponent, rfl, spells, again⟩ := optionalExponent_eq_ok_own h
    refine ⟨digits, [], exponent, rfl, all, .none, spells, fun others ended => ?_⟩
    have after := spells.no_digit ended
    rw [List.nil_append, afterFullDigits_append all.2 after.1, if_neg after.2, again others ended]

/-- A number that does not begin with a zero is read digit by digit. -/
theorem number_digits_own {b : UInt8} (digit : isDigit b) (zero : b ≠ 48)
    (h : Read.number positive (b :: unread) = .ok (n, rest)) :
    ∃ digits fraction exponent, unread = digits ++ (fraction ++ (exponent ++ rest)) ∧
      (∀ c ∈ digits, isDigit c) ∧ IsFraction fraction ∧ IsExponent exponent ∧
      ∀ others, Ended others → Read.number positive
        (b :: (digits ++ (fraction ++ (exponent ++ others)))) = .ok (n, others) := by
  rw [Read.number, if_neg zero, if_pos digit] at h
  rcases found : digitsBelow significandLimit (digitValue b) 0 unread with ⟨value, taken, left⟩
  obtain ⟨digits, rfl, all, _, below⟩ := digitsBelow_own found
  rw [found] at h
  simp only at h
  split at h
  · rename_i more
    obtain ⟨further, fraction, exponent, rfl, each, spells, power, again⟩ :=
      afterFullDigits_eq_ok_own more h
    refine ⟨digits ++ further, fraction, exponent, by simp,
      List.forall_mem_append.2 ⟨all, each.2⟩, spells, power, fun others ended => ?_⟩
    have head : (further ++ (fraction ++ (exponent ++ others))).head? =
        (further ++ (fraction ++ (exponent ++ rest))).head? := by
      obtain ⟨c, _, rfl, _⟩ := each.exists_cons
      rfl
    rw [List.append_assoc, Read.number, if_neg zero, if_pos digit, below _ (.inr head)]
    simp only [each.next, if_true, again others ended]
  · obtain ⟨fraction, exponent, rfl, spells, power, again⟩ := afterDigits_eq_ok_own h
    refine ⟨digits, fraction, exponent, rfl, all, spells, power, fun others ended => ?_⟩
    have after := spells.no_digit power ended
    rw [Read.number, if_neg zero, if_pos digit, below _ (.inl after)]
    simp only [after, Bool.false_eq_true, if_false, again others ended]

/-- What is read as a number is one by the grammar, and is read again wherever it stands. -/
theorem number_eq_ok_own (h : Read.number positive unread = .ok (n, rest)) :
    ∃ text, unread = text ++ rest ∧ IsMagnitude text ∧ ∀ others, Ended others →
      Read.number positive (text ++ others) = .ok (n, others) := by
  cases unread with
  | nil => cases h
  | cons b behind =>
    by_cases zero : b = 48
    · rw [Read.number, if_pos zero] at h
      split at h
      · cases h
      · obtain ⟨fraction, exponent, rfl, spells, power, again⟩ := afterDigits_eq_ok_own h
        refine ⟨48 :: (fraction ++ exponent), by simp [zero], .of .zero spells power,
          fun others ended => ?_⟩
        have stops := spells.no_digit power ended
        rw [List.cons_append, List.append_assoc, Read.number, if_pos rfl, if_neg (by simp [stops]),
          again others ended]
    · by_cases digit : isDigit b
      · obtain ⟨digits, fraction, exponent, rfl, all, spells, power, again⟩ :=
          number_digits_own digit zero h
        refine ⟨b :: digits ++ (fraction ++ exponent), by simp,
          .of (.digits digit zero all) spells power, fun others ended => ?_⟩
        simp only [List.cons_append, List.append_assoc]
        exact again others ended
      · rw [Read.number, if_neg zero, if_neg digit] at h
        cases h

end

end WidgetBindings.Json
