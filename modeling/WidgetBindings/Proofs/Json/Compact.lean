import Mathlib.Tactic.SplitIfs
import WidgetBindings.Proofs.Json.Containers

/-!
# Values on one line

* `noFeed_compact`: a value on one line is one line, whatever stands in its strings;
* `unfolds_compact`: an object on one line unfolds into its members.
-/

namespace WidgetBindings.Json

/-! ## No line feeds -/

theorem noFeed_toDigits (n : Nat) : '\n' ∉ Nat.toDigits 10 n := by
  intro mem
  have digit := Nat.isDigit_of_mem_toDigits (by decide) (by decide) mem
  exact absurd digit (by decide)

theorem noFeed_escapedChar (c : Char) : '\n' ∉ escapedChar c := by
  unfold escapedChar
  split_ifs with quote backslash backspace page feed
  all_goals try decide
  · have digit : ∀ d < 16, hexDigit d ≠ '\n' := by decide
    have high := digit (c.toNat / 16) (by omega)
    have low := digit (c.toNat % 16) (by omega)
    simp [high.symm, low.symm]
  · intro mem
    exact feed (List.mem_singleton.1 mem).symm

theorem noFeed_stringText (s : String) : '\n' ∉ (stringText s).toList := by
  simp [stringText, noFeed_escapedChar]

theorem noFeed_decimalText (d : Decimal.Scaled) : '\n' ∉ (decimalText d).toList := by
  have digits := noFeed_toDigits d.digits
  have taken (n : Nat) : '\n' ∉ (Nat.toDigits 10 d.digits).take n := by
    intro mem
    exact digits (List.mem_of_mem_take mem)
  have dropped (n : Nat) : '\n' ∉ (Nat.toDigits 10 d.digits).drop n := by
    intro mem
    exact digits (List.mem_of_mem_drop mem)
  have zeros (n : Int) : '\n' ∉ List.replicate n.toNat '0' := by
    intro mem
    exact absurd (List.eq_of_mem_replicate mem) (by decide)
  unfold decimalText
  simp only [String.toList_ofList]
  split_ifs <;>
    simp only [List.mem_append, List.mem_cons, List.not_mem_nil, not_or, or_false, digits, taken,
      dropped, zeros, noFeed_toDigits, not_false_eq_true, true_and] <;> decide

theorem noFeed_numberText (n : Number) : '\n' ∉ (numberText n).toList := by
  cases n with
  | integer value fits =>
    change '\n' ∉ (Int.repr value).toList
    cases value with
    | ofNat m => simpa [Int.repr] using noFeed_toDigits m
    | negSucc m => simpa [Int.repr] using noFeed_toDigits (m + 1)
  | float bits =>
    rw [numberText, floatText, String.toList_append, List.mem_append, not_or]
    exact ⟨by split_ifs <;> decide, noFeed_decimalText _⟩

mutual

theorem noFeed_compact (v : Json) : '\n' ∉ v.compact.toList := by
  cases v with
  | null => decide
  | bool b => cases b <;> decide
  | number n => exact noFeed_numberText n
  | string s => exact noFeed_stringText s
  | array items => simp [compact, noFeed_compactItems items]
  | object members => simp [compact, noFeed_compactMembers members]

theorem noFeed_compactItems (items : List Json) : '\n' ∉ (compactItems items).toList := by
  cases items with
  | nil => decide
  | cons item rest =>
    cases rest with
    | nil => exact noFeed_compact item
    | cons next rest =>
      simp [compactItems, noFeed_compact item, noFeed_compactItems (next :: rest)]

theorem noFeed_compactMembers (members : List (String × Json)) :
    '\n' ∉ (compactMembers members).toList := by
  cases members with
  | nil => decide
  | cons member rest =>
    cases member with
    | mk key value =>
      cases rest with
      | nil => simp [compactMembers, noFeed_compact value, noFeed_stringText]
      | cons next rest =>
        simp [compactMembers, noFeed_compact value, noFeed_stringText,
          noFeed_compactMembers (next :: rest)]

end

/-! ## Read back -/

namespace Read

/-- The bytes of a member on one line. -/
def memberBytes (member : String × Json) : List UInt8 :=
  Text.toBytes (stringText member.1) ++ 58 :: Text.toBytes member.2.compact

/-- The bytes of members after the first one. -/
def furtherBytes (members : List (String × Json)) : List UInt8 :=
  members.flatMap fun m => 44 :: memberBytes m

theorem toBytes_compactMembers (member : String × Json) (members : List (String × Json)) :
    Text.toBytes (compactMembers (member :: members)) =
      memberBytes member ++ furtherBytes members := by
  have comma : Text.toBytes "," = [44] := by decide
  have colon : Text.toBytes ":" = [58] := by decide
  induction members generalizing member with
  | nil => simp [compactMembers, memberBytes, furtherBytes, colon]
  | cons m members ih => simp [compactMembers, ih, memberBytes, furtherBytes, comma, colon]

theorem length_le_furtherBytes (members : List (String × Json)) :
    members.length ≤ (furtherBytes members).length := by
  induction members with
  | nil => exact Nat.le_refl _
  | cons m members ih =>
    rw [furtherBytes, List.flatMap_cons, ← furtherBytes, List.length_append, List.length_cons,
      List.length_cons]
    omega

theorem ended_furtherBytes (members : List (String × Json)) (rest : List UInt8) :
    Ended (furtherBytes members ++ 125 :: rest) := by
  cases members with
  | nil => exact ended_cons (.inr (.inr rfl)) rest
  | cons m members => exact ended_cons (.inl rfl) _

section

variable {σ : Type} {step : σ → String → List UInt8 → Except Trouble (σ × List UInt8)}
  {state final : σ} {members : List (String × Json)}

/-- A member is read if its value is. -/
theorem step_compact {next : σ} {key : String} {value : Json} {rest : List UInt8}
    (reads : Readable (fun unread => step state key (58 :: unread)) value.compact next)
    (ended : Ended rest) :
    step state key (58 :: (Text.toBytes value.compact ++ rest)) = .ok (next, rest) :=
  reads.reads (reads.skipBlanks_text rest) ended

theorem skipBlanks_stringText (key : String) (rest : List UInt8) :
    skipBlanks (Text.toBytes (stringText key) ++ rest) = Text.toBytes (stringText key) ++ rest := by
  rw [toBytes_stringText, List.cons_append, skipBlanks_cons rfl]

theorem members_furtherBytes (takes : Takes compact step state members final) (fuel : Nat)
    (enough : members.length < fuel) (rest : List UInt8) :
    Read.members step fuel false state (furtherBytes members ++ 125 :: rest) =
      .ok (final, 125 :: rest) := by
  induction takes generalizing fuel with
  | nil state =>
    obtain ⟨fuel, rfl⟩ := Nat.exists_eq_succ_of_ne_zero (Nat.ne_zero_of_lt enough)
    exact members_end false fuel (skipBlanks_cons rfl rest)
  | @cons state next final m members reads _ ih =>
    obtain ⟨fuel, rfl⟩ := Nat.exists_eq_succ_of_ne_zero (Nat.ne_zero_of_lt enough)
    have split : furtherBytes (m :: members) ++ 125 :: rest =
        44 :: (Text.toBytes (stringText m.1) ++ (58 :: (Text.toBytes m.2.compact ++
          (furtherBytes members ++ 125 :: rest)))) := by
      simp [furtherBytes, memberBytes]
    rw [split, members_comma fuel (skipBlanks_stringText m.1 _)
      (step_compact reads (ended_furtherBytes members rest))]
    exact ih fuel (Nat.lt_of_succ_lt_succ enough)

/-- An object on one line unfolds into its members. -/
theorem unfolds_compact (members : List (String × Json)) :
    Unfolds compact members (compact (.object members)) := by
  have opening : Text.toBytes "\x7b" = [123] := by decide
  have closing : Text.toBytes "\x7d" = [125] := by decide
  cases members with
  | nil =>
    refine ⟨[125], by rw [compact]; decide, fun rest takes => ?_⟩
    cases takes
    exact members_end true _ (skipBlanks_cons rfl rest)
  | cons m members =>
    refine ⟨memberBytes m ++ furtherBytes members ++ [125], ?_, ?_⟩
    · simp [compact, toBytes_compactMembers, opening, closing]
    · intro σ step state final rest takes
      cases takes with
      | cons reads others =>
        have split : memberBytes m ++ furtherBytes members ++ [125] ++ rest =
            Text.toBytes (stringText m.1) ++ (58 :: (Text.toBytes m.2.compact ++
              (furtherBytes members ++ 125 :: rest))) := by
          simp [memberBytes]
        have enough := length_le_furtherBytes members
        rw [split, members_first _ (skipBlanks_stringText m.1 _)
          (step_compact reads (ended_furtherBytes members rest))]
        refine members_furtherBytes others _ ?_ rest
        simp only [List.length_append, List.length_cons]
        omega

end

end Read

end WidgetBindings.Json
