import WidgetBindings.Store

/-!
# What a store holds

Every operation on stores, seen through the list of entries:

* `contains_iff`, `nodup_identifiers`: the index answers for the list, and no identifier occurs
  twice in it;
* `insert_eq_ok_iff`, `edit_eq_ok_iff`: an insertion adds at the end, an edit changes the entry of
  its identifier and no other;
* `toList_editAll`: edits one after the other change each entry by the edits for its identifier, in
  their order;
* `mem_identifiers_ofCalls`: a store that calls have built holds no identifier that no call named.
-/

namespace WidgetBindings

/-- The entry after edits, one after the other. -/
def Entry.applyAll (entry : Entry) (edits : List Edit) : Entry := edits.foldl Entry.apply entry

@[simp] theorem Entry.identifier_applyAll (entry : Entry) (edits : List Edit) :
    (entry.applyAll edits).identifier = entry.identifier := by
  induction edits generalizing entry with
  | nil => rfl
  | cons e es ih => exact (ih _).trans (entry.identifier_apply e)

namespace Store

@[simp] theorem toList_empty : empty.toList = [] := rfl

@[simp] theorem length_toList (s : Store) : s.toList.length = s.size := rfl

@[simp] theorem length_identifiers (s : Store) : s.identifiers.length = s.size := by
  simp [identifiers]

theorem index_iff (s : Store) (id : String) (i : Nat) :
    s.index[id]? = some i ↔ s.identifiers[i]? = some id := by
  rw [s.coherent, identifiers, List.getElem?_map, toList, Array.getElem?_toList]

theorem contains_iff (s : Store) (id : String) : s.contains id = true ↔ id ∈ s.identifiers := by
  rw [contains, Std.ExtTreeMap.contains_eq_isSome_getElem?, Option.isSome_iff_exists]
  simp only [index_iff, List.mem_iff_getElem?]

@[simp] theorem contains_eq_false_iff (s : Store) (id : String) :
    s.contains id = false ↔ id ∉ s.identifiers := by
  rw [← contains_iff, Bool.not_eq_true]

/-- The index has one position for each identifier, so no identifier occurs twice. -/
theorem nodup_identifiers (s : Store) : s.identifiers.Nodup := by
  rw [List.nodup_iff_pairwise_ne, List.pairwise_iff_getElem]
  intro i j hi hj lt same
  have at_i := (s.index_iff s.identifiers[i] i).2 (by simp)
  have at_j := (s.index_iff s.identifiers[i] j).2 (by simp [same])
  have : i = j := Option.some.inj (at_i.symm.trans at_j)
  omega

theorem get?_eq_some_iff (s : Store) (id : String) (e : Entry) :
    s.get? id = some e ↔ e ∈ s.toList ∧ e.identifier = id := by
  rw [get?, Option.bind_eq_some_iff]
  constructor
  · rintro ⟨i, hi, he⟩
    rw [s.coherent, he] at hi
    exact ⟨List.mem_iff_getElem?.2 ⟨i, by simpa [toList] using he⟩, by simpa using hi⟩
  · rintro ⟨he, rfl⟩
    obtain ⟨i, hi⟩ := List.mem_iff_getElem?.1 he
    have at_i : s.entries[i]? = some e := by simpa [toList] using hi
    exact ⟨i, (s.coherent _ _).2 (by simp [at_i]), at_i⟩

theorem get?_of_mem {s : Store} {e : Entry} (h : e ∈ s.toList) : s.get? e.identifier = some e :=
  (s.get?_eq_some_iff _ _).2 ⟨h, rfl⟩

/-- Looking up the identifiers of a store finds its entries, in order. -/
theorem map_get?_of_identifiers_eq {s t : Store} (same : s.identifiers = t.identifiers) :
    t.toList.map (fun e => (s.get? e.identifier).getD e) = s.toList := by
  apply List.ext_getElem?
  intro i
  have at_i : (s.toList[i]?).map Entry.identifier = (t.toList[i]?).map Entry.identifier := by
    simpa only [identifiers, List.getElem?_map] using congrArg (·[i]?) same
  rw [List.getElem?_map]
  cases ht : t.toList[i]? with
  | none =>
    rw [ht] at at_i
    exact (Option.map_eq_none_iff.1 at_i).symm
  | some f =>
    rw [ht] at at_i
    obtain ⟨e, he, id⟩ := Option.map_eq_some_iff.1 at_i
    rw [he, Option.map_some, ← id, get?_of_mem (List.mem_of_getElem? he)]
    rfl

/-- The entries with a given identifier: one or none. -/
theorem filter_identifier (s : Store) (id : String) :
    s.toList.filter (fun e => e.identifier = id) = (s.get? id).toList := by
  have distinct : (s.toList.filter fun e => e.identifier = id).Pairwise
      fun e f => e.identifier ≠ f.identifier :=
    (List.pairwise_map.1 s.nodup_identifiers).filter _
  have member (e : Entry) :
      e ∈ s.toList.filter (fun e => e.identifier = id) ↔ s.get? id = some e := by
    simp [get?_eq_some_iff]
  match found : s.toList.filter fun e => e.identifier = id with
  | [] =>
    rw [found] at member
    simp only [List.not_mem_nil, false_iff] at member
    rw [found, Option.eq_none_iff_forall_ne_some.2 member]
    rfl
  | [e] =>
    rw [(member e).1 (by simp [found]), found]
    rfl
  | e :: f :: rest =>
    rw [found] at distinct member
    have he := (get?_eq_some_iff s id e).1 ((member e).1 (by simp))
    have hf := (get?_eq_some_iff s id f).1 ((member f).1 (by simp))
    exact absurd (he.2.trans hf.2.symm) (by simpa using (List.pairwise_cons.1 distinct).1 f)

/-! ## Insertions and edits -/

theorem insert_eq_ok_iff {s t : Store} {e : Entry} :
    s.insert e = .ok t ↔ e.identifier ∉ s.identifiers ∧ t.toList = s.toList ++ [e] := by
  have absent : e.identifier ∈ s.index ↔ e.identifier ∈ s.identifiers := s.contains_iff _
  unfold insert
  split
  · rename_i taken
    simp [absent.1 taken]
  · rename_i free
    rw [absent] at free
    simp only [Except.ok.injEq, free, not_false_eq_true, true_and]
    constructor
    · rintro rfl
      simp [toList]
    · intro h
      apply ext
      rw [h]
      simp [toList]

theorem insert_eq_error_iff {s : Store} {e : Entry} {r : Refusal} :
    s.insert e = .error r ↔
      e.identifier ∈ s.identifiers ∧ r = .duplicateIdentifier e.identifier := by
  have absent : e.identifier ∈ s.index ↔ e.identifier ∈ s.identifiers := s.contains_iff _
  unfold insert
  split
  · rename_i taken
    simp [absent.1 taken, eq_comm]
  · rename_i free
    rw [absent] at free
    simp [free]

/-- The entry after an edit for an identifier, which is another one or its own. -/
def editFor (id : String) (edit : Edit) (e : Entry) : Entry :=
  if e.identifier = id then e.apply edit else e

theorem identifier_editFor (id : String) (edit : Edit) (e : Entry) :
    (editFor id edit e).identifier = e.identifier := by
  unfold editFor
  split <;> simp

theorem edit_eq_ok_iff {s t : Store} {id : String} {edit : Edit} :
    s.edit id edit = .ok t ↔
      id ∈ s.identifiers ∧ t.toList = s.toList.map (editFor id edit) := by
  unfold Store.edit
  split
  · rename_i absent
    have : id ∉ s.identifiers := by
      rw [← contains_iff, contains, Std.ExtTreeMap.contains_eq_isSome_getElem?, absent]
      simp
    simp [this]
  · rename_i i present
    have place := (s.index_iff id i).1 present
    have modified : s.toList.modify i (Entry.apply · edit) = s.toList.map (editFor id edit) := by
      apply List.ext_getElem?
      intro j
      rw [List.getElem?_modify, List.getElem?_map]
      cases at_j : s.toList[j]? with
      | none => rfl
      | some e =>
        have id_j : s.identifiers[j]? = some e.identifier := by simp [identifiers, at_j]
        -- an edit by position reaches the entries with that identifier, for there is only one
        have : i = j ↔ e.identifier = id := by
          constructor
          · rintro rfl
            exact Option.some.inj (id_j.symm.trans place)
          · intro same
            have := (s.index_iff id j).2 (same ▸ id_j)
            exact Option.some.inj (present.symm.trans this)
        simp [editFor, this]
    have members : id ∈ s.identifiers := List.mem_iff_getElem?.2 ⟨i, place⟩
    simp only [Except.ok.injEq, members, true_and]
    constructor
    · rintro rfl
      simpa [toList] using modified
    · intro h
      apply ext
      rw [h, ← modified]
      simp [toList]

theorem edit_eq_error_iff {s : Store} {id : String} {edit : Edit} {r : Refusal} :
    s.edit id edit = .error r ↔ id ∉ s.identifiers ∧ r = .unknownIdentifier id := by
  have present := s.contains_iff id
  rw [contains, Std.ExtTreeMap.contains_eq_isSome_getElem?] at present
  unfold Store.edit
  split
  · rename_i absent
    simp only [absent, Option.isSome_none, Bool.false_eq_true, false_iff] at present
    simp [present, eq_comm]
  · rename_i i found
    simp only [found, Option.isSome_some, true_iff] at present
    simp [present]

theorem identifiers_edit {s t : Store} {id : String} {edit : Edit} (h : s.edit id edit = .ok t) :
    t.identifiers = s.identifiers := by
  rw [identifiers, (edit_eq_ok_iff.1 h).2, List.map_map, identifiers]
  exact List.map_congr_left fun e _ => identifier_editFor id edit e

/-- The edits among `edits` that are for an identifier. -/
def editsFor (edits : List (String × Edit)) (id : String) : List Edit :=
  (edits.filter fun e => e.1 = id).map (·.2)

/-- The store after an edit that may be turned down. -/
theorem toList_edit_or_same (s : Store) (id : String) (edit : Edit) :
    (match s.edit id edit with | .ok t => t | .error _ => s).toList =
      s.toList.map (editFor id edit) := by
  cases h : s.edit id edit with
  | ok t => exact (edit_eq_ok_iff.1 h).2
  | error r =>
    have absent := (edit_eq_error_iff.1 h).1
    have same : ∀ e ∈ s.toList, editFor id edit e = e := by
      intro e he
      have : e.identifier ≠ id := fun eq => absent (eq ▸ List.mem_map_of_mem he)
      simp [editFor, this]
    rw [List.map_congr_left same, List.map_id']

/-- Each entry takes the edits for its identifier, in their order. -/
theorem toList_editAll (s : Store) (edits : List (String × Edit)) :
    (s.editAll edits).toList =
      s.toList.map fun e => e.applyAll (editsFor edits e.identifier) := by
  induction edits generalizing s with
  | nil => simp [editAll, editsFor, Entry.applyAll]
  | cons first rest ih =>
    have step := ih (match s.edit first.1 first.2 with | .ok t => t | .error _ => s)
    rw [toList_edit_or_same, List.map_map] at step
    refine step.trans (List.map_congr_left fun e _ => ?_)
    rw [Function.comp_apply, identifier_editFor]
    by_cases h : first.1 = e.identifier
    · simp [editsFor, editFor, Entry.applyAll, h]
    · simp [editsFor, editFor, Entry.applyAll, h, Ne.symm h]

theorem identifiers_editAll (s : Store) (edits : List (String × Edit)) :
    (s.editAll edits).identifiers = s.identifiers := by
  rw [identifiers, toList_editAll, List.map_map, identifiers]
  exact List.map_congr_left fun e _ => e.identifier_applyAll _

/-! ## Calls -/

/-- A call that may change a store. -/
inductive Call
  | insert (entry : Entry)
  | edit (identifier : String) (edit : Edit)

/-- The identifier that a call is about. -/
def Call.identifier : Call → String
  | insert entry => entry.identifier
  | edit identifier _ => identifier

/-- The outcome of a call. -/
def tryCall (store : Store) : Call → Except Refusal Store
  | .insert entry => store.insert entry
  | .edit identifier edit => store.edit identifier edit

/-- The store after a call. A call that is turned down changes nothing. -/
def call (store : Store) (call : Call) : Store :=
  match store.tryCall call with
  | .ok changed => changed
  | .error _ => store

/-- The store that calls make out of the one without entries. -/
def ofCalls (calls : List Call) : Store := calls.foldl call empty

/-- A call adds no identifier but the one that it is about. -/
theorem mem_identifiers_call {s : Store} {c : Call} {id : String}
    (h : id ∈ (s.call c).identifiers) : id ∈ s.identifiers ∨ id = c.identifier := by
  unfold call at h
  cases outcome : s.tryCall c with
  | error r =>
    rw [outcome] at h
    exact .inl h
  | ok t =>
    rw [outcome] at h
    cases c with
    | insert entry =>
      have added := (insert_eq_ok_iff.1 outcome).2
      rw [identifiers, added, List.map_append, List.mem_append] at h
      exact h.imp_right fun last => by simpa [Call.identifier] using last
    | edit identifier edit =>
      rw [identifiers_edit outcome] at h
      exact .inl h

theorem mem_identifiers_ofCalls {calls : List Call} {id : String}
    (h : id ∈ (ofCalls calls).identifiers) : ∃ c ∈ calls, c.identifier = id := by
  have run : ∀ (rest : List Call) (s : Store), id ∈ (rest.foldl call s).identifiers →
      id ∈ s.identifiers ∨ ∃ c ∈ rest, c.identifier = id := by
    intro rest
    induction rest with
    | nil => exact fun _ => .inl
    | cons c cs ih =>
      intro s hs
      obtain hc | ⟨d, hd, rfl⟩ := ih _ hs
      · obtain before | rfl := mem_identifiers_call hc
        · exact .inl before
        · exact .inr ⟨c, List.mem_cons_self, rfl⟩
      · exact .inr ⟨d, List.mem_cons_of_mem _ hd, rfl⟩
  exact (run calls empty h).resolve_left (by simp [identifiers])

end Store

end WidgetBindings
