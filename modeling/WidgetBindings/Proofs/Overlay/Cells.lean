import WidgetBindings.Proofs.Overlay.Addressing

/-!
# Keys and cells

A cell is one field of one entry, and each cell has one key. Joining an identifier and a suffix to a
key and taking a key apart undo each other, as no suffix holds an underscore.

* `join_inj`: a key is joined in one way only;
* `length_values_ofStore`: a snapshot has six keys for each entry;
* `target?_join_iff`: what a key with a given last word resolves to; `target?_long_name` and
  `target?_fixed_name`: what becomes of the names that are no such words;
* `keys_name_cells`: the laws of keys together.
-/

namespace WidgetBindings

/-- The words that a key may end in, each with the field that it stands for. -/
def Field.words : List (String × Field) := [
  ("name", displayName), ("type", controlType), ("event", event), ("evt", event),
  ("con", consume), ("consume", consume), ("pro", produce), ("produce", produce),
  ("grp", group), ("group", group)]

theorem Field.mem_words_iff {word : String} {field : Field} :
    (word, field) ∈ words ↔ word ∈ field.keyNames := by
  cases field <;> simp [words, keyNames]

namespace Document

/-- In a key the last underscore is where it was joined. -/
theorem join_inj {identifier identifier' suffix suffix' : String} (plain : '_' ∉ suffix.toList)
    (plain' : '_' ∉ suffix'.toList)
    (same : identifier ++ "_" ++ suffix = identifier' ++ "_" ++ suffix') :
    identifier = identifier' ∧ suffix = suffix' := by
  have joined (id word : String) :
      (id ++ "_" ++ word).toList = id.toList ++ '_' :: word.toList := by
    simp
  have cut : splitLast? '_' (identifier.toList ++ '_' :: suffix.toList) =
      some (identifier.toList, suffix.toList) := splitLast?_append plain
  rw [← joined, same, joined, splitLast?_append plain'] at cut
  obtain ⟨front, back⟩ := Prod.mk.inj (Option.some.inj cut)
  exact ⟨(String.toList_inj.1 front).symm, (String.toList_inj.1 back).symm⟩

theorem length_values_ofStore (store : Store) : (ofStore store).values.length = 6 * store.size := by
  have six (entry : Entry) : (entryValues entry).length = 6 := rfl
  simp [ofStore, List.length_flatMap, six, Store.size, Store.toList, Nat.mul_comm]

/-- A key resolves by the word behind its last underscore. -/
theorem target?_join_iff {identifier identifier' word : String} {field : Field}
    (plain : '_' ∉ word.toList) :
    target? (identifier ++ "_" ++ word) = some (identifier', field) ↔
      identifier = identifier' ∧ identifier ≠ "" ∧ (word, field) ∈ Field.words := by
  rw [target?_eq_some_iff, Field.mem_words_iff]
  constructor
  · rintro ⟨named, name, known, same⟩
    obtain ⟨rfl, rfl⟩ := join_inj plain (Field.keyNames_spec known).2.2 same
    exact ⟨rfl, named, known⟩
  · rintro ⟨rfl, named, known⟩
    exact ⟨named, word, known, rfl⟩

theorem target?_iff_words {key identifier : String} {field : Field} :
    target? key = some (identifier, field) ↔
      ∃ suffix, splitKey? key = some (identifier, suffix) ∧ (suffix, field) ∈ Field.words := by
  rw [target?_iff_split]
  constructor
  · rintro ⟨suffix, split, known⟩
    have plain := (splitKey?_eq_some_iff.1 split).2.2.2
    exact ⟨suffix, split, Field.mem_words_iff.2 ((Field.ofName_eq_ok_iff plain).1 known)⟩
  · rintro ⟨suffix, split, known⟩
    exact ⟨suffix, split, (Field.keyNames_spec (Field.mem_words_iff.1 known)).1⟩

/-- The long name of a text field ends in its short name, which is all that is read of it. -/
theorem target?_long_name (identifier : String) :
    target? (identifier ++ "_" ++ "display_name") =
      some (identifier ++ "_display", .displayName) ∧
    target? (identifier ++ "_" ++ "control_type") =
      some (identifier ++ "_control", .controlType) := by
  have full (word : String) (h : word ≠ "") : identifier ++ word ≠ "" := by
    intro empty
    exact h (String.append_eq_empty_iff.1 empty).2
  have display : identifier ++ "_" ++ "display_name" =
      identifier ++ "_display" ++ "_" ++ "name" := by
    simp only [String.append_assoc]
    rfl
  have control : identifier ++ "_" ++ "control_type" =
      identifier ++ "_control" ++ "_" ++ "type" := by
    simp only [String.append_assoc]
    rfl
  rw [display, control]
  exact ⟨(target?_join_iff (by decide)).2 ⟨rfl, full _ (by decide), by decide⟩,
    (target?_join_iff (by decide)).2 ⟨rfl, full _ (by decide), by decide⟩⟩

/-- The names of the identifier resolve to nothing. -/
theorem target?_fixed_name (identifier : String) {word : String}
    (fixed : word = "id" ∨ word = "identifier") : target? (identifier ++ "_" ++ word) = none := by
  have plain : '_' ∉ word.toList := by
    obtain rfl | rfl := fixed <;> decide
  have unknown : ∀ field, (word, field) ∉ Field.words := by
    intro field
    obtain rfl | rfl := fixed <;> cases field <;> decide
  rw [Option.eq_none_iff_forall_ne_some]
  rintro ⟨identifier', field⟩ found
  exact unknown field ((target?_join_iff plain).1 found).2.2

/-- **A key names one cell.** It comes apart into an identifier and a suffix exactly if it is joined
of the two, and it is joined in one way only. The key of a cell comes apart into its identifier and
a word for its field, and no other cell has this key; so a snapshot has six keys for each entry,
none of them twice, and none of its values takes the place of another. A key resolves to a cell
exactly if its suffix is one of ten words, and all other keys are unknown to a load. The long names
of the text fields resolve to entries with longer identifiers, and the names of the identifier to
none. -/
theorem keys_name_cells :
    (∀ key identifier suffix, splitKey? key = some (identifier, suffix) ↔
      key = identifier ++ "_" ++ suffix ∧ identifier ≠ "" ∧ suffix ≠ "" ∧
        '_' ∉ suffix.toList) ∧
    (∀ identifier identifier' suffix suffix' : String,
      '_' ∉ suffix.toList → '_' ∉ suffix'.toList →
      identifier ++ "_" ++ suffix = identifier' ++ "_" ++ suffix' →
        identifier = identifier' ∧ suffix = suffix') ∧
    (∀ identifier field, identifier ≠ "" → ∃ suffix,
      splitKey? (fieldKey identifier field) = some (identifier, suffix) ∧
        Field.ofName suffix = .ok field) ∧
    (∀ identifier identifier' field field',
      fieldKey identifier field = fieldKey identifier' field' →
        identifier = identifier' ∧ field = field') ∧
    (∀ store, let values := (ofStore store).values
      (values.map (·.1)).Nodup ∧ values.length = 6 * store.size ∧
        values.foldl (fun ms m => Json.setMember m.1 m.2 ms) [] = values) ∧
    (∀ key identifier field, target? key = some (identifier, field) ↔
      ∃ suffix, splitKey? key = some (identifier, suffix) ∧ (suffix, field) ∈ Field.words) ∧
    (∀ present key value,
      (Verdict.of present key value).isUnknown = true ↔ target? key = none) ∧
    ∀ identifier : String,
      target? (identifier ++ "_" ++ "display_name") =
        some (identifier ++ "_display", .displayName) ∧
      target? (identifier ++ "_" ++ "control_type") =
        some (identifier ++ "_control", .controlType) ∧
      target? (identifier ++ "_" ++ "id") = none ∧
      target? (identifier ++ "_" ++ "identifier") = none ∧
      ∀ word ∈ ["display_name", "control_type", "id", "identifier"], ∀ field,
        target? (identifier ++ "_" ++ word) ≠ some (identifier, field) := by
  refine ⟨fun key identifier suffix => splitKey?_eq_some_iff,
    fun identifier identifier' suffix suffix' => join_inj, fun identifier field named => ?_,
    fun identifier identifier' field field' => fieldKey_inj, fun store => ?_,
    fun key identifier field => target?_iff_words, fun present key value => ?_,
    fun identifier => ?_⟩
  · exact ⟨field.suffix, splitKey?_fieldKey named field, Field.ofName_suffix field⟩
  · have distinct := nodup_keys_ofStore store
    exact ⟨distinct, length_values_ofStore store, foldl_setMember (by simpa using distinct)⟩
  · rw [Verdict.isUnknown_of, Option.isNone_iff_eq_none]
  · obtain ⟨display, control⟩ := target?_long_name identifier
    have id := target?_fixed_name identifier (.inl rfl)
    have full := target?_fixed_name identifier (.inr rfl)
    have longer (word : String) (h : word ≠ "") : identifier ++ word ≠ identifier := by
      intro same
      exact h (String.append_eq_left_iff.1 same)
    refine ⟨display, control, id, full, fun word mem field found => ?_⟩
    simp only [List.mem_cons, List.not_mem_nil, or_false] at mem
    obtain rfl | rfl | rfl | rfl := mem
    · rw [display] at found
      exact longer _ (by decide) (Prod.mk.inj (Option.some.inj found)).1
    · rw [control] at found
      exact longer _ (by decide) (Prod.mk.inj (Option.some.inj found)).1
    · rw [id] at found
      cases found
    · rw [full] at found
      cases found

/-- An identifier that has underscores of its own, at its end and beside one another. -/
theorem keys_name_cells_nested :
    "ui__a_" ≠ "" ∧
    (∃ suffix, splitKey? (fieldKey "ui__a_" .event) = some ("ui__a_", suffix) ∧
      Field.ofName suffix = .ok .event) ∧
    target? "ui__a__evt" = some ("ui__a_", .event) ∧
    target? ("ui__a_" ++ "_" ++ "display_name") = some ("ui__a_" ++ "_display", .displayName) := by
  have named : "ui__a_" ≠ "" := by decide
  obtain ⟨split, _, parts, _, _, resolves, _, names⟩ := keys_name_cells
  have apart := (split "ui__a__evt" "ui__a_" "evt").2 ⟨by decide, named, by decide, by decide⟩
  refine ⟨named, parts "ui__a_" .event named, ?_, (names "ui__a_").1⟩
  exact (resolves "ui__a__evt" "ui__a_" .event).2 ⟨"evt", apart, by decide⟩

end Document

end WidgetBindings
