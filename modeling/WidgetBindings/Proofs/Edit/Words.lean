import WidgetBindings.Proofs.Declaration.Grammar
import WidgetBindings.Proofs.Overlay.LastWriter

/-!
# Values and words for a field

A field is given a flat value, a text or a flag, or what an operator types for one.

* `parseFlag?_eq_some_iff`: the words that an operator has for a flag;
* `Edit.ofValue_eq_ok_iff`: the flat values that a field takes, and what becomes of them;
* `Edit.parse_word`: what an operator types for such a value makes the same edit.
-/

namespace WidgetBindings

/-! ## Words for a flag -/

namespace Text

/-- A text between white space is what is left when it is trimmed. -/
theorem trimChars_around {before word after : List Char} (front : AllBlank before)
    (back : AllBlank after) (dark : ∀ c ∈ word, isBlank c = false) (full : word ≠ []) :
    trimChars (before ++ (word ++ after)) = word := by
  have opening : BlankFree (word ++ after) := by
    intro c first
    obtain ⟨d, rest, rfl⟩ := List.exists_cons_of_ne_nil full
    obtain rfl : d = c := by simpa using first
    exact dark d List.mem_cons_self
  have closing : BlankFree word.reverse := by
    intro c last
    have mem := List.mem_of_head? last
    exact dark c (List.mem_reverse.1 mem)
  have backwards : AllBlank after.reverse := fun c mem => back c (List.mem_reverse.1 mem)
  rw [trimChars, dropWhile_blank front opening, List.reverse_append,
    dropWhile_blank backwards closing, List.reverse_reverse]

/-- Trimming leaves out white space and nothing else. -/
theorem exists_trimChars (cs : List Char) : ∃ before after, AllBlank before ∧ AllBlank after ∧
    cs = before ++ (trimChars cs ++ after) := by
  have back : AllBlank ((cs.dropWhile isBlank).reverse.takeWhile isBlank).reverse :=
    fun c mem => allBlank_takeWhile _ c (List.mem_reverse.1 mem)
  refine ⟨cs.takeWhile isBlank, _, allBlank_takeWhile cs, back, ?_⟩
  rw [trimChars, ← List.reverse_append, List.takeWhile_append_dropWhile, List.reverse_reverse,
    List.takeWhile_append_dropWhile]

/-- White space has no case. -/
theorem toLower_of_isBlank {c : Char} (blank : isBlank c = true) : c.toLower = c := by
  have no_letter : ¬ (65 ≤ c.val ∧ c.val ≤ 90) := by
    intro letter
    have starts : Declaration.startsIdentifier c = true := by
      change (decide (65 ≤ c.val ∧ c.val ≤ 90) || (97 ≤ c.val && c.val ≤ 122) ||
        decide (c = '_')) = true
      rw [decide_eq_true letter]
      rfl
    rw [Declaration.blank_of_startsIdentifier starts] at blank
    cases blank
  exact dif_neg no_letter

end Text

open Text (AllBlank isBlank)

/-- The words for a flag. -/
def flagWords : Bool → List String
  | true => ["true", "1", "yes", "on"]
  | false => ["false", "0", "no", "off"]

/-- A text spells a flag: it is one of the words for the flag, with letters of the basic alphabet in
any case, and with any white space around it. -/
def Spells (text : String) (flag : Bool) : Prop :=
  ∃ before word after, text.toList = before ++ (word ++ after) ∧ AllBlank before ∧
    AllBlank after ∧ ∃ spelling ∈ flagWords flag, word.map Char.toLower = spelling.toList

theorem flagWords_dark {flag : Bool} {spelling : String} (h : spelling ∈ flagWords flag) :
    spelling.toList ≠ [] ∧ ∀ c ∈ spelling.toList, isBlank c = false := by
  have checked : ∀ word ∈ flagWords flag,
      word.toList ≠ [] ∧ word.toList.all (fun c => !isBlank c) = true := by
    cases flag <;> decide
  obtain ⟨full, dark⟩ := checked spelling h
  refine ⟨full, fun c mem => ?_⟩
  rw [← Bool.not_eq_true']
  exact List.all_eq_true.1 dark c mem

/-- No word stands for both flags. -/
theorem parseFlag?_eq_some_iff_mem {text : String} {flag : Bool} :
    parseFlag? text = some flag ↔
      String.ofList ((Text.trimChars text.toList).map Char.toLower) ∈ flagWords flag := by
  have apart : ∀ word ∈ flagWords false, word ∉ flagWords true := by decide
  change (if _ ∈ flagWords true then some true else if _ ∈ flagWords false then some false
    else none) = some flag ↔ _
  generalize String.ofList ((Text.trimChars text.toList).map Char.toLower) = word
  by_cases on : word ∈ flagWords true
  · rw [if_pos on]
    cases flag with
    | true => simp [on]
    | false => simp [show word ∉ flagWords false from fun off => apart word off on]
  · rw [if_neg on]
    by_cases off : word ∈ flagWords false
    · rw [if_pos off]
      cases flag <;> simp [on, off]
    · rw [if_neg off]
      cases flag <;> simp [on, off]

/-- An operator's words for a flag are those that spell it. -/
theorem parseFlag?_eq_some_iff {text : String} {flag : Bool} :
    parseFlag? text = some flag ↔ Spells text flag := by
  rw [parseFlag?_eq_some_iff_mem]
  constructor
  · intro known
    obtain ⟨before, after, front, back, whole⟩ := Text.exists_trimChars text.toList
    exact ⟨before, _, after, whole, front, back, _, known, by rw [String.toList_ofList]⟩
  · rintro ⟨before, word, after, whole, front, back, spelling, known, same⟩
    obtain ⟨full, dark⟩ := flagWords_dark known
    have word_full : word ≠ [] := by
      rintro rfl
      exact full same.symm
    have word_dark : ∀ c ∈ word, isBlank c = false := by
      intro c mem
      rw [← Bool.not_eq_true]
      intro blank
      -- as white space has no case, it would stand in the spelling as well
      have there : c.toLower ∈ spelling.toList := same ▸ List.mem_map_of_mem mem
      rw [Text.toLower_of_isBlank blank] at there
      rw [dark c there] at blank
      cases blank
    rw [whole, Text.trimChars_around front back word_dark word_full, same, String.ofList_toList]
    exact known

/-- A word in capitals between spaces of two scripts, and one that has a space inside. -/
example : parseFlag? "\u3000YES\t" = some true ∧ parseFlag? "o n" = none := by decide

/-! ## Flat values -/

/-- A value from a document gives a field no value but its own. -/
theorem Suits.flat_eq {field : Field} {value flat : FieldValue}
    (h : Suits field value.toJson flat) : flat = value := by
  cases value <;> cases h <;> rfl

/-- A flat value makes an edit if it suits the field, and the edit gives it to the field. -/
theorem Edit.ofValue_eq_ok_iff {field : Field} {value : FieldValue} {edit : Edit} :
    ofValue field value = .ok edit ↔
      Suits field value.toJson value ∧ edit.field = field ∧ edit.value = value := by
  have from_document : ofValue field value = .ok edit ↔
      Verdict.edit? field value.toJson = some edit := by
    rw [Document.edit?_toJson]
    cases ofValue field value <;> simp [Except.toOption]
  rw [from_document]
  constructor
  · intro made
    obtain ⟨of_field, suits⟩ := suits_of_edit? made
    have same := suits.flat_eq
    rw [same] at suits
    exact ⟨suits, of_field, same⟩
  · rintro ⟨suits, of_field, of_value⟩
    obtain ⟨other, made, other_field, other_value⟩ := suits.edit?_eq_some
    have same : other = edit :=
      Edit.eq_of_value (other_field.trans of_field.symm) (other_value.trans of_value.symm)
    rw [made, same]

theorem Edit.ofValue_of_unsuited {field : Field} {value : FieldValue}
    (unsuited : ¬ Suits field value.toJson value) :
    ∃ refusal, ofValue field value = .error refusal := by
  cases made : ofValue field value with
  | error refusal => exact ⟨refusal, rfl⟩
  | ok edit => exact absurd (Edit.ofValue_eq_ok_iff.1 made).1 unsuited

/-- What an operator types for a flat value. -/
def FieldValue.word : FieldValue → String
  | .text value => value
  | .flag value => flagWord value

/-- A word for a flag makes the edit that the flag makes. -/
theorem Edit.parse_of_word {field : Field} (isFlag : field.isFlag = true) {text : String}
    {flag : Bool} (word : parseFlag? text = some flag) :
    parse field text = ofValue field (.flag flag) := by
  cases field with
  | displayName | controlType | event => cases isFlag
  | consume | produce | group => simp only [parse, parse.parseFlag, word, ofValue]

theorem Edit.parse_of_text {field : Field} (isText : field.isFlag = false) (text : String) :
    parse field text = ofValue field (.text text) := by
  rw [ofValue, isText]
  rfl

/-- What an operator types for a value that suits a field makes the edit that the value makes. -/
theorem Edit.parse_word {field : Field} {value : FieldValue} {edit : Edit}
    (made : ofValue field value = .ok edit) : parse field value.word = .ok edit := by
  obtain ⟨suits, _, _⟩ := Edit.ofValue_eq_ok_iff.1 made
  cases value with
  | text text =>
    have isText : field.isFlag = false := by cases suits <;> rfl
    rw [← made]
    exact Edit.parse_of_text isText text
  | flag flag =>
    have isFlag : field.isFlag = true := by
      cases suits
      assumption
    have word : parseFlag? (flagWord flag) = some flag := by cases flag <;> decide
    rw [← made]
    exact Edit.parse_of_word isFlag word

/-- An edit that gives a field a text is typed as this text, and in no other way. -/
theorem Edit.parse_eq_ok_iff {edit : Edit} {text word : String} (given : edit.value = .text text) :
    parse edit.field word = .ok edit ↔ word = text := by
  have isText : edit.field.isFlag = false := by
    cases edit <;> cases given <;> rfl
  have made : ofValue edit.field edit.value = .ok edit := by
    cases edit <;> simp [ofValue, value, field, Field.isFlag, parse]
  constructor
  · intro parsed
    rw [parse_of_text isText] at parsed
    have same := (ofValue_eq_ok_iff.1 parsed).2.2
    rw [given] at same
    exact (FieldValue.text.inj same).symm
  · rintro rfl
    rw [given] at made
    exact parse_word made

end WidgetBindings
