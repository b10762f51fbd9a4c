import WidgetBindings.Proofs.Entry.Record
import WidgetBindings.Proofs.Json.Compact
import WidgetBindings.Proofs.Text.Order

/-!
# What a prefix table lists

A table is what it looks up. The list and the text of a table say all of that and nothing else.

* `mem_toList_iff`, `pairwise_toList`: each prefix that has a mapping is listed once, in the order
  of the bytes;
* `eq_of_lookup?`: tables that look up alike are equal;
* `read_compact`: a table is read from its text as it was. The lengths of its prefixes are not
  looked at.
-/

namespace WidgetBindings

open Json Json.Read

namespace PrefixTable

variable {table other : PrefixTable}

/-! ## Listing -/

theorem mem_toList_iff {text : String} {mapping : Mapping} :
    (text, mapping) ∈ table.toList ↔ table.lookup? text = some mapping :=
  Std.ExtTreeMap.mem_toList_iff_getElem?_eq_some

theorem length_toList (table : PrefixTable) : table.toList.length = table.size :=
  Std.ExtTreeMap.length_toList

theorem lt_of_compare {s t : String} (h : compare s t = .lt) : s < t := by
  change compareOfLessAndEq s t = .lt at h
  unfold compareOfLessAndEq at h
  split at h
  · assumption
  · split at h <;> cases h

theorem pairwise_toList (table : PrefixTable) :
    table.toList.Pairwise fun a b => Text.toBytes a.1 < Text.toBytes b.1 := by
  refine Std.ExtTreeMap.ordered_keys_toList.imp fun less => ?_
  exact Text.toBytes_lt_iff.2 (lt_of_compare less)

/-- Tables that look up alike are equal. -/
theorem eq_of_lookup? (h : ∀ text, table.lookup? text = other.lookup? text) : table = other :=
  congrArg PrefixTable.mk (Std.ExtTreeMap.ext_getElem? h)

/-! ## Inserting one after the other -/

/-- The table with mappings put into it, one after the other. -/
def putAll (table : PrefixTable) (mappings : List (String × Mapping)) : PrefixTable :=
  mappings.foldl (fun t m => ⟨t.mappings.insert m.1 m.2⟩) table

/-- The mapping that stands last for a prefix. -/
def last? (mappings : List (String × Mapping)) (text : String) : Option Mapping :=
  (mappings.filter (·.1 = text)).getLast?.map (·.2)

theorem lookup?_putAll (table : PrefixTable) (mappings : List (String × Mapping)) (text : String) :
    (table.putAll mappings).lookup? text = (last? mappings text).or (table.lookup? text) := by
  induction mappings generalizing table with
  | nil => rfl
  | cons m mappings ih =>
    have inserted : (⟨table.mappings.insert m.1 m.2⟩ : PrefixTable).lookup? text =
        if m.1 = text then some m.2 else table.lookup? text := by
      rw [lookup?, Std.ExtTreeMap.getElem?_insert]
      simp only [Std.compare_eq_iff_eq]
      rfl
    rw [putAll, List.foldl_cons, ← putAll, ih, inserted, last?, last?, List.filter_cons]
    by_cases here : m.1 = text
    · rw [if_pos here, if_pos (by simpa using here), List.getLast?_cons]
      cases (mappings.filter (·.1 = text)).getLast? <;> rfl
    · rw [if_neg here, if_neg (by simpa using here)]

/-- A table is what it lists. -/
theorem putAll_toList (table : PrefixTable) : empty.putAll table.toList = table := by
  apply eq_of_lookup?
  intro text
  have nothing : empty.lookup? text = none := Std.ExtTreeMap.getElem?_empty
  rw [lookup?_putAll, nothing, Option.or_none, last?]
  cases found : (table.toList.filter (·.1 = text)).getLast? with
  | none =>
    symm
    rw [Option.map_none, Option.eq_none_iff_forall_ne_some]
    intro mapping known
    have listed : (text, mapping) ∈ table.toList.filter (·.1 = text) :=
      List.mem_filter.2 ⟨mem_toList_iff.2 known, decide_eq_true rfl⟩
    rw [List.getLast?_eq_none_iff.1 found] at listed
    cases listed
  | some m =>
    obtain ⟨listed, same⟩ := List.mem_filter.1 (List.mem_of_getLast? found)
    obtain rfl := of_decide_eq_true same
    exact (mem_toList_iff.1 listed).symm

end PrefixTable

/-! ## Texts -/

theorem Mapping.readable (depth : Nat) (mapping : Mapping) :
    Readable (Mapping.read (depth + 1)) mapping.toJson.compact mapping := by
  have takes : Takes compact (readMember depth) {}
      [("control_type", .string mapping.controlType.jsonName),
        ("event", .string mapping.event.jsonName)]
      ⟨some mapping.controlType, some mapping.event⟩ := by
    refine .field (fun v => ⟨some v, none⟩) (mapping.controlType.readable depth) (fun _ => rfl) ?_
    exact .field (fun v => ⟨some mapping.controlType, some v⟩) (mapping.event.readable depth)
      (fun _ => rfl) (.nil _)
  exact readable_record Draft.finish (fun _ => rfl) (unfolds_compact _) takes fun _ => rfl

namespace PrefixTable

theorem readable (depth : Nat) (table : PrefixTable) :
    Readable (PrefixTable.read (depth + 3)) table.toJson.compact table := by
  have mappings := readable_mapOf Mapping.toJson
    (fun t text mapping => (⟨t.mappings.insert text mapping⟩ : PrefixTable)) empty
    (unfolds_compact _) fun m (_ : m ∈ table.toList) => Mapping.readable depth m.2
  change Readable (readMappings (depth + 2)) _ (empty.putAll table.toList) at mappings
  rw [putAll_toList] at mappings
  exact readable_record
    (fun found unread => (required "mappings" unread found).bind fun t => .ok (t, unread))
    (fun _ => rfl) (unfolds_compact _) (.field some mappings (fun _ => rfl) (.nil _)) fun _ => rfl

/-- A table comes back from its text. -/
theorem read_compact (table : PrefixTable) :
    all (PrefixTable.read nestingLimit) (Text.toBytes table.toJson.compact) = .ok table := by
  have nothing : ∀ b ∈ ([] : List UInt8), isBlankByte b := by simp
  have whole := (readable (nestingLimit - 3) table).all nothing
  rwa [List.append_nil] at whole

end PrefixTable

end WidgetBindings
