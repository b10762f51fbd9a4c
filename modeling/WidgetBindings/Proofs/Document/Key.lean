import Mathlib.Data.List.Nodup
import WidgetBindings.Document
import WidgetBindings.Proofs.Store.Contents

/-!
# Keys and values of a snapshot

A snapshot joins identifiers and suffixes into flat keys and turns fields into flat values. Both can
be undone, whatever the identifiers are:

* `splitKey?_eq_some_iff`: a key comes apart in one way at most, at its last underscore;
* `splitKey?_fieldKey`: a key comes apart into the identifier and the suffix it was made of, for no
  suffix holds an underscore;
* `nodup_keys_ofStore`: no key of a snapshot occurs twice, so setting its values one after the other
  loses none of them (`foldl_setMember`);
* `ofValue_value`: the flat value of a field asks for the edit that restores the field.
-/

namespace WidgetBindings

namespace Document

theorem splitLast?_eq_none_iff {c : Char} {cs : List Char} :
    splitLast? c cs = none ↔ c ∉ cs := by
  induction cs with
  | nil => simp [splitLast?]
  | cons d rest ih =>
    rw [splitLast?]
    cases h : splitLast? c rest with
    | some parts =>
      have : c ∈ rest := by
        by_cases hc : c ∈ rest
        · exact hc
        · rw [ih.2 hc] at h
          cases h
      simp [this]
    | none =>
      by_cases hd : d = c
      · simp [hd]
      · simp [hd, ih.1 h, Ne.symm hd]

/-- The last underscore is the one after which there is no other. -/
theorem splitLast?_append {c : Char} {before after : List Char} (last : c ∉ after) :
    splitLast? c (before ++ c :: after) = some (before, after) := by
  induction before with
  | nil => simp [splitLast?, splitLast?_eq_none_iff.2 last]
  | cons d rest ih => simp [splitLast?, ih]

/-- A list is cut at its last `c`, and there is one place where it can be. -/
theorem splitLast?_eq_some_iff {c : Char} {cs before after : List Char} :
    splitLast? c cs = some (before, after) ↔ cs = before ++ c :: after ∧ c ∉ after := by
  constructor
  · intro h
    induction cs generalizing before with
    | nil => cases h
    | cons d rest ih =>
      cases found : splitLast? c rest with
      | some parts =>
        simp only [splitLast?, found] at h
        cases h
        obtain ⟨rfl, last⟩ := ih found
        exact ⟨rfl, last⟩
      | none =>
        simp only [splitLast?, found] at h
        by_cases here : d = c
        · rw [if_pos here] at h
          cases h
          exact ⟨by rw [here, List.nil_append], splitLast?_eq_none_iff.1 found⟩
        · rw [if_neg here] at h
          cases h
  · rintro ⟨rfl, last⟩
    exact splitLast?_append last

/-- A key comes apart into two texts that are not empty, the second without underscores. -/
theorem splitKey?_eq_some_iff {key identifier suffix : String} :
    splitKey? key = some (identifier, suffix) ↔
      key = identifier ++ "_" ++ suffix ∧ identifier ≠ "" ∧ suffix ≠ "" ∧
        '_' ∉ suffix.toList := by
  have joined : key.toList = identifier.toList ++ '_' :: suffix.toList ↔
      key = identifier ++ "_" ++ suffix := by
    rw [← String.toList_inj]
    simp
  rw [← joined]
  constructor
  · intro h
    rw [splitKey?] at h
    cases found : splitLast? '_' key.toList with
    | none =>
      rw [found] at h
      cases h
    | some parts =>
      obtain ⟨before, after⟩ := parts
      rw [found] at h
      simp only [Bool.or_eq_true, List.isEmpty_iff] at h
      split at h
      · cases h
      · rename_i full
        cases h
        obtain ⟨whole, last⟩ := splitLast?_eq_some_iff.1 found
        rw [not_or] at full
        simp [whole, last, full.1, full.2]
  · rintro ⟨whole, named, ended, last⟩
    have found := splitLast?_eq_some_iff.2 ⟨whole, last⟩
    have before : identifier.toList ≠ [] := by simpa using named
    have after : suffix.toList ≠ [] := by simpa using ended
    simp [splitKey?, found, before, after]

theorem underscore_notMem_suffix (field : Field) : '_' ∉ field.suffix.toList := by
  cases field <;> decide

theorem suffix_ne_empty (field : Field) : field.suffix ≠ "" := by
  cases field <;> decide

theorem toList_fieldKey (identifier : String) (field : Field) :
    (fieldKey identifier field).toList = identifier.toList ++ '_' :: field.suffix.toList := by
  simp [fieldKey]

theorem splitLast?_fieldKey (identifier : String) (field : Field) :
    splitLast? '_' (fieldKey identifier field).toList =
      some (identifier.toList, field.suffix.toList) := by
  rw [toList_fieldKey]
  exact splitLast?_append (underscore_notMem_suffix field)

/-- A key comes apart into what it was made of. -/
theorem splitKey?_fieldKey {identifier : String} (named : identifier ≠ "") (field : Field) :
    splitKey? (fieldKey identifier field) = some (identifier, field.suffix) := by
  have : identifier.toList ≠ [] := by simpa using named
  simp [splitKey?, splitLast?_fieldKey, this, suffix_ne_empty]

end Document

namespace Field

@[simp] theorem ofName_suffix (field : Field) : ofName field.suffix = .ok field := by
  cases field <;> rfl

theorem suffix_injective {f g : Field} (h : f.suffix = g.suffix) : f = g := by
  have := (ofName_suffix f).symm.trans ((congrArg ofName h).trans (ofName_suffix g))
  exact Except.ok.inj this

theorem nodup_all : all.Nodup := by decide

end Field

namespace Document

/-- Keys differ as soon as their identifiers or their fields do. -/
theorem fieldKey_inj {id id' : String} {f f' : Field} (h : fieldKey id f = fieldKey id' f') :
    id = id' ∧ f = f' := by
  have parts := splitLast?_fieldKey id f
  rw [h, splitLast?_fieldKey] at parts
  simp only [Option.some.injEq, Prod.mk.injEq, String.toList_inj] at parts
  exact ⟨parts.1.symm, Field.suffix_injective parts.2.symm⟩

theorem keys_entryValues (e : Entry) :
    (entryValues e).map (·.1) = Field.all.map (fieldKey e.identifier) := by
  simp [entryValues]

theorem nodup_keys_ofStore (s : Store) : ((ofStore s).values.map (·.1)).Nodup := by
  have distinct : s.toList.Pairwise fun e f => e.identifier ≠ f.identifier :=
    List.pairwise_map.1 s.nodup_identifiers
  simp only [ofStore, List.map_flatMap, keys_entryValues]
  refine List.nodup_flatMap.2 ⟨fun e _ => ?_, distinct.imp fun {e f} apart => ?_⟩
  · exact Field.nodup_all.map fun f g h => (fieldKey_inj h).2
  · intro key he hf
    obtain ⟨f, _, rfl⟩ := List.mem_map.1 he
    obtain ⟨g, _, hg⟩ := List.mem_map.1 hf
    exact apart (fieldKey_inj hg).1.symm

end Document

/-- Setting members one after the other keeps them all, if no key occurs twice. -/
theorem foldl_setMember {members : List (String × Json)} {before : List (String × Json)}
    (distinct : ((before ++ members).map (·.1)).Nodup) :
    members.foldl (fun ms m => Json.setMember m.1 m.2 ms) before = before ++ members := by
  have fresh : ∀ (ms : List (String × Json)) (key : String) (v : Json), key ∉ ms.map (·.1) →
      Json.setMember key v ms = ms ++ [(key, v)] := by
    intro ms key v absent
    induction ms with
    | nil => rfl
    | cons m ms ih =>
      simp only [List.map_cons, List.mem_cons, not_or] at absent
      simp [Json.setMember, Ne.symm absent.1, ih absent.2]
  induction members generalizing before with
  | nil => simp
  | cons m ms ih =>
    have absent : m.1 ∉ before.map (·.1) := by
      intro hm
      rw [List.map_append, List.map_cons, List.nodup_append] at distinct
      exact distinct.2.2 _ hm _ List.mem_cons_self rfl
    rw [List.foldl_cons, fresh _ _ _ absent, ih (by simpa using distinct)]
    simp

/-! ## Values -/

@[simp] theorem ControlType.ofTag?_tag (t : ControlType) : ofTag? t.tag = some t := by
  cases t <;> rfl

@[simp] theorem EventCode.ofTag?_tag (e : EventCode) : ofTag? e.tag = some e := by
  cases e <;> rfl

/-- The edit that sets a field to what it is in an entry. -/
def Entry.restoring (e : Entry) : Field → Edit
  | .displayName => .displayName e.displayName
  | .controlType => .controlType e.controlType
  | .event => .event e.event
  | .consume => .consume e.consume
  | .produce => .produce e.produce
  | .group => .group e.group

theorem Edit.ofValue_value (e : Entry) (field : Field) :
    Edit.ofValue field (e.value field) = .ok (e.restoring field) := by
  cases field <;> simp [Edit.ofValue, Entry.value, Entry.restoring, Field.isFlag, Edit.parse]

/-- An entry that takes every field of another one with its identifier becomes that one. -/
theorem Entry.applyAll_restoring {e f : Entry} (same : f.identifier = e.identifier) :
    f.applyAll (Field.all.map e.restoring) = e := by
  cases e
  cases f
  simp_all [Entry.applyAll, Field.all, Entry.restoring, Entry.apply]

end WidgetBindings
