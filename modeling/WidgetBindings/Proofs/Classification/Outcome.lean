import WidgetBindings.Classification
import WidgetBindings.Proofs.Declaration.Grammar

/-!
# What a symbol becomes

The outcome of a classification, told from the name without the constant prefix:

* `strip_cases`: the constant prefix is taken off the front, once, or is not there;
* `mapping?_eq_some_iff`: a mapping belongs to the first three characters of what is left;
* `classify_eq_mapped_iff`, `classify_eq_fallback_iff`, `classify_eq_rejected_iff`: when each
  outcome arises, and with what;
* `accepted?`, `accepts_eq`: the entry of an accepted symbol, and which symbols are accepted.
-/

namespace WidgetBindings

namespace Classification

/-- Whether the prefix is in the table. -/
def isMapped : Classification → Bool
  | mapped _ => true
  | fallback _ | rejected _ => false

/-- Whether the symbol is accepted although its prefix is unknown. -/
def isFallback : Classification → Bool
  | fallback _ => true
  | mapped _ | rejected _ => false

/-- The name under which a symbol is turned down, if it is. -/
def rejectedName? : Classification → Option String
  | rejected strippedName => some strippedName
  | mapped _ | fallback _ => none

def isRejected (outcome : Classification) : Bool := outcome.rejectedName?.isSome

/-- Every classification has one outcome of the three. -/
theorem one_outcome (outcome : Classification) :
    outcome.isMapped.toNat + outcome.isFallback.toNat + outcome.isRejected.toNat = 1 := by
  cases outcome <;> rfl

end Classification

namespace Classifier

variable {rules : Classifier} {identifier : String}

theorem strip_cases (rules : Classifier) (identifier : String) :
    rules.constantPrefix.toList ++ rules.strip identifier = identifier.toList ∨
      ¬ rules.constantPrefix.toList <+: identifier.toList ∧
        rules.strip identifier = identifier.toList := by
  unfold strip
  cases found : Text.after? rules.constantPrefix.toList identifier.toList with
  | some rest => exact .inl (Text.after?_eq_some_iff.1 found).symm
  | none =>
    refine .inr ⟨?_, rfl⟩
    rintro ⟨rest, same⟩
    rw [Text.after?_eq_some_iff.2 same.symm] at found
    cases found

theorem mapping?_eq_some_iff {stripped : List Char} {mapping : Mapping} :
    rules.mapping? stripped = some mapping ↔ ∃ front rest, stripped = front ++ rest ∧
      front.length = prefixLength ∧ rules.table.lookup? (String.ofList front) = some mapping := by
  unfold mapping?
  constructor
  · intro found
    split at found
    · rename_i long
      exact ⟨stripped.take prefixLength, stripped.drop prefixLength,
        (List.take_append_drop ..).symm, List.length_take_of_le long, found⟩
    · cases found
  · rintro ⟨front, rest, rfl, three, found⟩
    have long : prefixLength ≤ (front ++ rest).length := by
      rw [List.length_append]
      omega
    rw [if_pos long, List.take_left' three, found]

theorem displayName_of_append {stripped front rest : List Char} (cut : stripped = front ++ rest)
    (three : front.length = prefixLength) :
    displayName stripped = String.ofList (Text.lowercase (rest.dropWhile (· = '_'))) := by
  rw [displayName, cut, List.drop_left' three]

theorem classify_of_known {mapping : Mapping}
    (known : rules.mapping? (rules.strip identifier) = some mapping) :
    rules.classify identifier =
      .mapped (.ofMapping identifier (displayName (rules.strip identifier)) mapping) := by
  unfold classify
  dsimp only
  rw [known]

theorem classify_of_unknown (unknown : rules.mapping? (rules.strip identifier) = none) :
    rules.classify identifier =
      if rules.acceptAll then
        .fallback (.ofMapping identifier
          (String.ofList (Text.lowercase (rules.strip identifier))) .fallback)
      else .rejected (String.ofList (rules.strip identifier)) := by
  unfold classify
  dsimp only
  rw [unknown]

theorem classify_eq_mapped_iff {entry : Entry} :
    rules.classify identifier = .mapped entry ↔
      ∃ mapping, rules.mapping? (rules.strip identifier) = some mapping ∧
        entry = .ofMapping identifier (displayName (rules.strip identifier)) mapping := by
  cases found : rules.mapping? (rules.strip identifier) with
  | some mapping =>
    rw [classify_of_known found]
    constructor
    · rintro ⟨⟩
      exact ⟨mapping, rfl, rfl⟩
    · rintro ⟨_, ⟨⟩, rfl⟩
      rfl
  | none =>
    rw [classify_of_unknown found]
    constructor
    · intro outcome
      split at outcome <;> cases outcome
    · rintro ⟨_, ⟨⟩, _⟩

theorem classify_eq_fallback_iff {entry : Entry} :
    rules.classify identifier = .fallback entry ↔
      rules.mapping? (rules.strip identifier) = none ∧ rules.acceptAll = true ∧
        entry = .ofMapping identifier
          (String.ofList (Text.lowercase (rules.strip identifier))) .fallback := by
  cases found : rules.mapping? (rules.strip identifier) with
  | some mapping =>
    rw [classify_of_known found]
    constructor
    · rintro ⟨⟩
    · rintro ⟨⟨⟩, _⟩
  | none =>
    rw [classify_of_unknown found]
    cases rules.acceptAll with
    | true => simp [eq_comm]
    | false => simp

theorem classify_eq_rejected_iff {name : String} :
    rules.classify identifier = .rejected name ↔
      rules.mapping? (rules.strip identifier) = none ∧ rules.acceptAll = false ∧
        name = String.ofList (rules.strip identifier) := by
  cases found : rules.mapping? (rules.strip identifier) with
  | some mapping =>
    rw [classify_of_known found]
    constructor
    · rintro ⟨⟩
    · rintro ⟨⟨⟩, _⟩
  | none =>
    rw [classify_of_unknown found]
    cases rules.acceptAll with
    | true => simp
    | false => simp [eq_comm]

/-- The entry that an identifier is accepted with, if it is. -/
def accepted? (rules : Classifier) (identifier : String) : Option Entry :=
  Classification.entry? (rules.classify identifier)

/-- A symbol is accepted, or else it is turned down. -/
theorem accepted_or_rejected (rules : Classifier) (identifier : String) :
    (∃ entry, rules.accepted? identifier = some entry ∧
      (rules.classify identifier).rejectedName? = none) ∨
    (∃ name, rules.classify identifier = .rejected name ∧ rules.accepted? identifier = none) := by
  unfold accepted?
  cases rules.classify identifier with
  | mapped entry => exact .inl ⟨entry, rfl, rfl⟩
  | fallback entry => exact .inl ⟨entry, rfl, rfl⟩
  | rejected name => exact .inr ⟨name, rfl, rfl⟩

/-- An accepted symbol becomes an entry for its own identifier. -/
theorem identifier_of_accepted {entry : Entry}
    (accepted : rules.accepted? identifier = some entry) :
    entry.identifier = identifier := by
  unfold accepted? at accepted
  cases outcome : rules.classify identifier with
  | mapped e =>
    obtain ⟨mapping, _, rfl⟩ := classify_eq_mapped_iff.1 outcome
    rw [outcome] at accepted
    cases accepted
    rfl
  | fallback e =>
    obtain ⟨_, _, rfl⟩ := classify_eq_fallback_iff.1 outcome
    rw [outcome] at accepted
    cases accepted
    rfl
  | rejected name =>
    rw [outcome] at accepted
    cases accepted

/-- Whether an identifier is accepted. -/
def accepts (rules : Classifier) (identifier : String) : Bool :=
  (rules.accepted? identifier).isSome

/-- Whether the prefix of an identifier is in the table. -/
def knows (rules : Classifier) (identifier : String) : Bool :=
  (rules.mapping? (rules.strip identifier)).isSome

/-- The outcome, from whether the prefix is known and whether all symbols are accepted. -/
theorem classify_outcomes (rules : Classifier) (identifier : String) :
    (rules.knows identifier = true ∧ ∃ e, rules.classify identifier = .mapped e) ∨
    (rules.knows identifier = false ∧ rules.acceptAll = true ∧
      ∃ e, rules.classify identifier = .fallback e) ∨
    (rules.knows identifier = false ∧ rules.acceptAll = false ∧
      rules.classify identifier = .rejected (String.ofList (rules.strip identifier))) := by
  unfold knows
  cases found : rules.mapping? (rules.strip identifier) with
  | some mapping => exact .inl ⟨rfl, _, classify_of_known found⟩
  | none =>
    have outcome := classify_of_unknown found
    cases accepting : rules.acceptAll with
    | true => exact .inr (.inl ⟨rfl, rfl, _, outcome.trans (if_pos accepting)⟩)
    | false =>
      have strict : ¬ rules.acceptAll = true := by simp [accepting]
      exact .inr (.inr ⟨rfl, rfl, outcome.trans (if_neg strict)⟩)

theorem isMapped_classify (rules : Classifier) (identifier : String) :
    (rules.classify identifier).isMapped = rules.knows identifier := by
  obtain ⟨known, e, h⟩ | ⟨known, _, e, h⟩ | ⟨known, _, h⟩ := rules.classify_outcomes identifier
  · rw [h, known]
    rfl
  · rw [h, known]
    rfl
  · rw [h, known]
    rfl

theorem isFallback_classify (rules : Classifier) (identifier : String) :
    (rules.classify identifier).isFallback = (!rules.knows identifier && rules.acceptAll) := by
  obtain ⟨known, e, h⟩ | ⟨known, all, e, h⟩ | ⟨known, strict, h⟩ :=
    rules.classify_outcomes identifier
  · rw [h, known]
    rfl
  · rw [h, known, all]
    rfl
  · rw [h, known, strict]
    rfl

theorem rejectedName?_classify (rules : Classifier) (identifier : String) :
    (rules.classify identifier).rejectedName? =
      if !rules.knows identifier && !rules.acceptAll then
        some (String.ofList (rules.strip identifier))
      else none := by
  obtain ⟨known, e, h⟩ | ⟨known, all, e, h⟩ | ⟨known, strict, h⟩ :=
    rules.classify_outcomes identifier
  · rw [h, known]
    rfl
  · rw [h, known, all]
    rfl
  · rw [h, known, strict]
    rfl

theorem isRejected_classify (rules : Classifier) (identifier : String) :
    (rules.classify identifier).isRejected = (!rules.knows identifier && !rules.acceptAll) := by
  rw [Classification.isRejected, rejectedName?_classify]
  cases !rules.knows identifier && !rules.acceptAll <;> rfl

theorem accepts_eq (rules : Classifier) (identifier : String) :
    rules.accepts identifier = (rules.knows identifier || rules.acceptAll) := by
  unfold accepts accepted?
  obtain ⟨known, e, h⟩ | ⟨known, all, e, h⟩ | ⟨known, strict, h⟩ :=
    rules.classify_outcomes identifier
  · rw [h, known]
    rfl
  · rw [h, known, all]
    rfl
  · rw [h, known, strict]
    rfl

/-- An accepted symbol whose prefix is known becomes the same entry whether all symbols are accepted
or not. -/
theorem accepted?_of_known {mapping : Mapping}
    (known : rules.mapping? (rules.strip identifier) = some mapping) :
    rules.accepted? identifier =
      some (.ofMapping identifier (displayName (rules.strip identifier)) mapping) := by
  rw [accepted?, classify_of_known known]
  rfl

end Classifier

end WidgetBindings
