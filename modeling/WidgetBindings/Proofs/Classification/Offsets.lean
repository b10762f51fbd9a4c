import WidgetBindings.Proofs.Classification.Outcome
import WidgetBindings.Proofs.Text.WellFormed

/-!
# Classification by places in bytes

A name is stored as bytes, and an implementation cuts it at places that are counted in bytes. Such a
cut has no result where the place lies inside a character.

* `cutAt?_eq_some_iff`: which places a text can be cut at;
* `stripInBytes?_eq`, `splitInBytes?_eq`: the constant prefix ends at such a place, and so does the
  third character of what is left;
* `classifyInBytes?_eq`: so every name is classified, and as it is character by character;
* `classify_follows_table`: what each name becomes.
-/

namespace WidgetBindings

namespace Text

/-- The two sides of a place in a text. The place is counted in bytes; there are no sides if it lies
behind the end or inside a character. -/
def cutAt? (place : Nat) (text : String) : Option (String × String) :=
  if place ≤ (toBytes text).length then
    (ofBytes? ((toBytes text).take place)).bind fun front =>
      (ofBytes? ((toBytes text).drop place)).map fun rest => (front, rest)
  else none

/-- Characters with the places of their first bytes, when those of the first are at `place`. -/
def charPlaces : (place : Nat) → List Char → List (Nat × Char)
  | _, [] => []
  | place, c :: cs => (place, c) :: charPlaces (place + c.utf8Size) cs

theorem toBytes_injective {s t : String} (same : toBytes s = toBytes t) : s = t := by
  have read := ofBytes?_toBytes s
  rw [same, ofBytes?_toBytes] at read
  exact (Option.some.inj read).symm

theorem cutAt?_eq_some_iff {place : Nat} {text front rest : String} :
    cutAt? place text = some (front, rest) ↔
      text = front ++ rest ∧ (toBytes front).length = place := by
  unfold cutAt?
  constructor
  · intro cut
    split at cut
    · rename_i inside
      obtain ⟨left, first, cut⟩ := Option.bind_eq_some_iff.1 cut
      obtain ⟨right, second, sides⟩ := Option.map_eq_some_iff.1 cut
      cases sides
      rw [ofBytes?_eq_some_iff] at first second
      refine ⟨toBytes_injective ?_, ?_⟩
      · rw [toBytes_append, ← first, ← second, List.take_append_drop]
      · rw [← first, List.length_take_of_le inside]
    · cases cut
  · rintro ⟨rfl, rfl⟩
    have inside : (toBytes front).length ≤ (toBytes (front ++ rest)).length := by
      rw [toBytes_append, List.length_append]
      omega
    rw [if_pos inside, toBytes_append, List.take_left, List.drop_left, ofBytes?_toBytes,
      ofBytes?_toBytes]
    rfl

theorem getElem?_charPlaces (place : Nat) (cs : List Char) (n : Nat) :
    (charPlaces place cs)[n]? =
      cs[n]?.map fun c => (place + (toBytes (String.ofList (cs.take n))).length, c) := by
  induction cs generalizing place n with
  | nil => rfl
  | cons c cs ih =>
    cases n with
    | zero =>
      have nothing : toBytes "" = [] := rfl
      simp [charPlaces, nothing]
    | succ n =>
      have size : place + c.utf8Size + (toBytes (String.ofList (cs.take n))).length =
          place + (toBytes (String.ofList ((c :: cs).take (n + 1)))).length := by
        simp only [toBytes_ofList, List.take_succ_cons, List.flatMap_cons, List.length_append,
          String.length_utf8EncodeChar]
        omega
      rw [charPlaces, List.getElem?_cons_succ, List.getElem?_cons_succ, ih, size]

/-- Bytes at the front of those of a text are characters at the front of it. -/
theorem prefix_of_toBytes {front cs : List Char}
    (h : front.flatMap String.utf8EncodeChar <+: cs.flatMap String.utf8EncodeChar) :
    front <+: cs := by
  induction front generalizing cs with
  | nil => exact List.nil_prefix
  | cons c front ih =>
    obtain ⟨rest, same⟩ := h
    cases cs with
    | nil =>
      have size := congrArg List.length same
      have := c.utf8Size_pos
      simp at size
      omega
    | cons d cs =>
      rw [List.flatMap_cons, List.flatMap_cons, List.append_assoc] at same
      -- the first bytes of the two texts spell one and the same character
      obtain rfl := char_eq_of_append same
      exact (List.prefix_cons_inj c).2 (ih ⟨rest, List.append_cancel_left same⟩)

end Text

namespace Classifier

open Text (toBytes cutAt? charPlaces)

/-- The name without the constant prefix, which is looked for and taken off as bytes. -/
def stripInBytes? (rules : Classifier) (identifier : String) : Option String :=
  if (toBytes rules.constantPrefix).isPrefixOf (toBytes identifier) then
    (cutAt? (toBytes rules.constantPrefix).length identifier).map (·.2)
  else some identifier

/-- The three characters at the front of a name, if it has as many, and what follows them. The name
is cut at the place of its fourth character. -/
def splitInBytes? (name : String) : Option (Option String × String) :=
  match (charPlaces 0 name.toList)[prefixLength]? with
  | some fourth => (cutAt? fourth.1 name).map fun sides => (some sides.1, sides.2)
  | none => if name.toList.length = prefixLength then some (some name, "") else some (none, name)

/-- The outcome for a name that is cut at places in bytes. -/
def classifyInBytes? (rules : Classifier) (identifier : String) : Option Classification :=
  (rules.stripInBytes? identifier).bind fun stripped =>
    (splitInBytes? stripped).map fun sides =>
      match sides.1.bind rules.table.lookup? with
      | some mapping => .mapped (.ofMapping identifier
          (String.ofList (Text.lowercase (sides.2.toList.dropWhile (· = '_')))) mapping)
      | none =>
        if rules.acceptAll then .fallback (.ofMapping identifier
          (String.ofList (Text.lowercase stripped.toList)) .fallback)
        else .rejected stripped

variable {rules : Classifier} {identifier : String}

theorem stripInBytes?_eq (rules : Classifier) (identifier : String) :
    rules.stripInBytes? identifier = some (String.ofList (rules.strip identifier)) := by
  unfold stripInBytes?
  obtain there | ⟨absent, whole⟩ := rules.strip_cases identifier
  · have joined : identifier = rules.constantPrefix ++ String.ofList (rules.strip identifier) := by
      rw [← String.toList_inj, String.toList_append, String.toList_ofList, there]
    have begins : (toBytes rules.constantPrefix).isPrefixOf (toBytes identifier) = true := by
      rw [List.isPrefixOf_iff_prefix, joined, Text.toBytes_append]
      exact List.prefix_append _ _
    rw [if_pos begins, Text.cutAt?_eq_some_iff.2 ⟨joined, rfl⟩]
    rfl
  · have begins : ¬ (toBytes rules.constantPrefix).isPrefixOf (toBytes identifier) = true := by
      rw [List.isPrefixOf_iff_prefix, Text.toBytes_eq_flatMap, Text.toBytes_eq_flatMap]
      exact fun front => absent (Text.prefix_of_toBytes front)
    rw [if_neg begins, whole, String.ofList_toList]

theorem splitInBytes?_eq (stripped : List Char) :
    splitInBytes? (String.ofList stripped) =
      if prefixLength ≤ stripped.length then
        some (some (String.ofList (stripped.take prefixLength)),
          String.ofList (stripped.drop prefixLength))
      else some (none, String.ofList stripped) := by
  unfold splitInBytes?
  rw [String.toList_ofList, Text.getElem?_charPlaces]
  cases fourth : stripped[prefixLength]? with
  | some c =>
    have long := (List.getElem?_eq_some_iff.1 fourth).1
    have sides : String.ofList stripped = String.ofList (stripped.take prefixLength) ++
        String.ofList (stripped.drop prefixLength) := by
      rw [← String.ofList_append, List.take_append_drop]
    rw [if_pos (Nat.le_of_lt long), Option.map_some, Nat.zero_add]
    dsimp only
    rw [Text.cutAt?_eq_some_iff.2 ⟨sides, rfl⟩]
    rfl
  | none =>
    have short := List.getElem?_eq_none_iff.1 fourth
    dsimp only [Option.map_none]
    by_cases three : stripped.length = prefixLength
    · have whole : stripped.take prefixLength = stripped := List.take_of_length_le short
      have rest : stripped.drop prefixLength = [] := List.drop_of_length_le short
      rw [if_pos three, if_pos (Nat.le_of_eq three.symm), whole, rest]
    · rw [if_neg three, if_neg (by omega)]

/-- No cut in bytes falls inside a character, whatever the name and the constant prefix are. -/
theorem classifyInBytes?_eq (rules : Classifier) (identifier : String) :
    rules.classifyInBytes? identifier = some (rules.classify identifier) := by
  unfold classifyInBytes?
  rw [stripInBytes?_eq, Option.bind_some, splitInBytes?_eq]
  by_cases long : prefixLength ≤ (rules.strip identifier).length
  · rw [if_pos long, Option.map_some, Option.bind_some]
    cases found : rules.table.lookup?
        (String.ofList ((rules.strip identifier).take prefixLength)) with
    | some mapping =>
      have known : rules.mapping? (rules.strip identifier) = some mapping := by
        rw [mapping?, if_pos long, found]
      rw [classify_of_known known, String.toList_ofList]
      rfl
    | none =>
      have unknown : rules.mapping? (rules.strip identifier) = none := by
        rw [mapping?, if_pos long, found]
      rw [classify_of_unknown unknown, String.toList_ofList, String.toList_ofList]
  · have unknown : rules.mapping? (rules.strip identifier) = none := by
      rw [mapping?, if_neg long]
    rw [if_neg long, Option.map_some, Option.bind_none, classify_of_unknown unknown,
      String.toList_ofList]

/-- **Classification follows the table, for every name.** The constant prefix is taken off the front
of a name, once at most. If three characters that the table maps come next, the symbol gets what
they map to, and as display name what follows them, without the underscores in front and in lower
case. Otherwise it becomes a label under the lower-cased rest of its name, when all symbols are
accepted, or is turned down under that rest. Characters are counted, not bytes, and no name has a
place at which its bytes could not be cut. -/
theorem classify_follows_table (rules : Classifier) (identifier : String) :
    let stripped := rules.strip identifier
    let begins (front rest : List Char) (mapping : Mapping) : Prop :=
      stripped = front ++ rest ∧ front.length = 3 ∧
        rules.table.lookup? (String.ofList front) = some mapping
    (rules.constantPrefix.toList ++ stripped = identifier.toList ∨
      ¬ rules.constantPrefix.toList <+: identifier.toList ∧ stripped = identifier.toList) ∧
    (∀ entry, rules.classify identifier = .mapped entry ↔
      ∃ front rest mapping, begins front rest mapping ∧ entry = {
        identifier
        displayName := String.ofList (Text.lowercase (rest.dropWhile (· = '_')))
        controlType := mapping.controlType
        event := mapping.event
        produce := false, consume := false, group := false }) ∧
    (∀ entry, rules.classify identifier = .fallback entry ↔
      (¬ ∃ front rest mapping, begins front rest mapping) ∧ rules.acceptAll = true ∧ entry = {
        identifier
        displayName := String.ofList (Text.lowercase stripped)
        controlType := .label
        event := .valueChanged
        produce := false, consume := false, group := false }) ∧
    (∀ name, rules.classify identifier = .rejected name ↔
      (¬ ∃ front rest mapping, begins front rest mapping) ∧ rules.acceptAll = false ∧
        name.toList = stripped) ∧
    rules.classifyInBytes? identifier = some (rules.classify identifier) := by
  intro stripped begins
  have known {mapping : Mapping} : rules.mapping? stripped = some mapping ↔
      ∃ front rest, begins front rest mapping := mapping?_eq_some_iff
  have unknown : rules.mapping? stripped = none ↔
      ¬ ∃ front rest mapping, begins front rest mapping := by
    rw [Option.eq_none_iff_forall_ne_some]
    constructor
    · rintro none ⟨front, rest, mapping, h⟩
      exact none mapping (known.2 ⟨front, rest, h⟩)
    · intro none mapping found
      obtain ⟨front, rest, h⟩ := known.1 found
      exact none ⟨front, rest, mapping, h⟩
  refine ⟨rules.strip_cases identifier, fun entry => ?_, fun entry => ?_, fun name => ?_,
    rules.classifyInBytes?_eq identifier⟩
  · rw [classify_eq_mapped_iff]
    constructor
    · rintro ⟨mapping, found, rfl⟩
      obtain ⟨front, rest, h⟩ := known.1 found
      refine ⟨front, rest, mapping, h, ?_⟩
      rw [displayName_of_append h.1 h.2.1]
      rfl
    · rintro ⟨front, rest, mapping, h, rfl⟩
      refine ⟨mapping, known.2 ⟨front, rest, h⟩, ?_⟩
      rw [displayName_of_append h.1 h.2.1]
      rfl
  · rw [classify_eq_fallback_iff, unknown]
    rfl
  · rw [classify_eq_rejected_iff, unknown, ← String.toList_inj, String.toList_ofList]

/-- The constant prefix may come twice, and the characters that count may be wide ones. -/
example : (Classifier.mk .standard "ui_" false).classify "ui_ui_btn" = .rejected "ui_btn" ∧
    (Classifier.mk ⟨Std.ExtTreeMap.empty.insert "äbc" .fallback⟩ "" true).classify "äbc__ÄB" =
      .mapped (.ofMapping "äbc__ÄB" "äb" .fallback) := by
  decide +kernel

end Classifier

end WidgetBindings
