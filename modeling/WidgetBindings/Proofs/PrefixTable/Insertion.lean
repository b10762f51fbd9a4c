import WidgetBindings.Proofs.PrefixTable.Listing

/-!
# Inserting into a prefix table

* `insert_eq_error_iff`: a call fails for the length of its prefix, and for nothing else;
* `insertAll_eq`: the calls that succeed are carried out one after the other, and the others are as
  if they had not been made;
* `last_insert_wins`: a table is a sorted map that holds what has been inserted last.
-/

namespace WidgetBindings.PrefixTable

open Json.Read

/-- What a call leaves in place of the table, whether it succeeds or fails. -/
def put (table : PrefixTable) (call : String × Mapping) : PrefixTable :=
  (table.insert call.1 call.2).toOption.getD table

/-- Calls made one after the other. -/
def insertAll (table : PrefixTable) (calls : List (String × Mapping)) : PrefixTable :=
  calls.foldl put table

/-- The calls that succeed. -/
def accepted (calls : List (String × Mapping)) : List (String × Mapping) :=
  calls.filter (·.1.length = prefixLength)

variable {table next : PrefixTable} {text : String} {mapping : Mapping}

theorem insert_eq_ok_iff : table.insert text mapping = .ok next ↔
    text.length = prefixLength ∧ next = ⟨table.mappings.insert text mapping⟩ := by
  unfold insert
  by_cases three : text.length = prefixLength
  · rw [if_pos three, Except.ok.injEq, eq_comm]
    exact (and_iff_right three).symm
  · rw [if_neg three]
    exact iff_of_false (by simp) fun h => three h.1

theorem insert_eq_error_iff {e : Refusal} : table.insert text mapping = .error e ↔
    text.length ≠ prefixLength ∧ e = .invalidPrefix text := by
  unfold insert
  by_cases three : text.length = prefixLength
  · rw [if_pos three]
    exact iff_of_false (by simp) fun h => h.1 three
  · rw [if_neg three, Except.error.injEq, eq_comm]
    exact (and_iff_right three).symm

theorem put_of_length (h : text.length = prefixLength) :
    table.put (text, mapping) = ⟨table.mappings.insert text mapping⟩ := by
  rw [put, insert_eq_ok_iff.2 ⟨h, rfl⟩]
  rfl

theorem put_of_length_ne (h : text.length ≠ prefixLength) : table.put (text, mapping) = table := by
  rw [put, insert_eq_error_iff.2 ⟨h, rfl⟩]
  rfl

theorem insertAll_eq (table : PrefixTable) (calls : List (String × Mapping)) :
    table.insertAll calls = table.putAll (accepted calls) := by
  induction calls generalizing table with
  | nil => rfl
  | cons call calls ih =>
    rw [insertAll, List.foldl_cons, ← insertAll, ih, accepted, accepted, List.filter_cons]
    by_cases three : call.1.length = prefixLength
    · rw [put_of_length three, if_pos (decide_eq_true three)]
      rfl
    · rw [put_of_length_ne three, if_neg (by simpa using three)]

theorem lookup?_insertAll (table : PrefixTable) (calls : List (String × Mapping)) (text : String) :
    (table.insertAll calls).lookup? text =
      (last? (accepted calls) text).or (table.lookup? text) := by
  rw [insertAll_eq, lookup?_putAll]

/-- **A prefix table is a sorted map in which the last insert wins.** After any calls, from any
table on: one more fails exactly if its prefix does not have three characters, and then leaves the
table as it is. A prefix has the mapping that it has been given by the last call that did not fail,
or else the one that it had before. The list goes strictly up in the order of the bytes and has each
prefix with a mapping, so the size is its length. Nothing but what is looked up can be told from the
table, its list or its text, and the table comes back from its text. -/
theorem last_insert_wins (start : PrefixTable) (calls : List (String × Mapping)) :
    (∀ text mapping,
      ((∃ e, (start.insertAll calls).insert text mapping = .error e) ↔ text.length ≠ 3) ∧
      (text.length ≠ 3 →
        start.insertAll (calls ++ [(text, mapping)]) = start.insertAll calls)) ∧
    (∀ text, (start.insertAll calls).lookup? text =
      ((calls.filter fun call => call.1.length = 3 ∧ call.1 = text).getLast?.map (·.2)).or
        (start.lookup? text)) ∧
    (start.insertAll calls).toList.Pairwise (fun a b => Text.toBytes a.1 < Text.toBytes b.1) ∧
    (∀ text mapping, (text, mapping) ∈ (start.insertAll calls).toList ↔
      (start.insertAll calls).lookup? text = some mapping) ∧
    (start.insertAll calls).size = (start.insertAll calls).toList.length ∧
    (∀ other others,
      (∀ text, (insertAll other others).lookup? text = (start.insertAll calls).lookup? text) →
      insertAll other others = start.insertAll calls ∧
      (insertAll other others).toList = (start.insertAll calls).toList ∧
      (insertAll other others).toJson.compact = (start.insertAll calls).toJson.compact) ∧
    all (PrefixTable.read nestingLimit) (Text.toBytes (start.insertAll calls).toJson.compact) =
      .ok (start.insertAll calls) := by
  refine ⟨fun text mapping => ⟨?_, fun wrong => ?_⟩, fun text => ?_, pairwise_toList _,
    fun text mapping => mem_toList_iff, (length_toList _).symm, fun other others alike => ?_,
    read_compact _⟩
  · constructor
    · rintro ⟨e, failed⟩
      exact (insert_eq_error_iff.1 failed).1
    · intro wrong
      exact ⟨_, insert_eq_error_iff.2 ⟨wrong, rfl⟩⟩
  · rw [insertAll, List.foldl_append, List.foldl_cons, List.foldl_nil, ← insertAll]
    exact put_of_length_ne wrong
  · have both : (accepted calls).filter (·.1 = text) =
        calls.filter fun call => call.1.length = 3 ∧ call.1 = text := by
      rw [accepted, List.filter_filter]
      refine List.filter_congr fun call _ => ?_
      rw [Bool.and_comm]
      exact (Bool.decide_and ..).symm
    rw [lookup?_insertAll, last?, both]
  · have same := eq_of_lookup? alike
    exact ⟨same, congrArg toList same, congrArg (·.toJson.compact) same⟩

end WidgetBindings.PrefixTable
