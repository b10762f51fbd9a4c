import WidgetBindings.Proofs.FirstOccurrence
import WidgetBindings.Proofs.Store.Contents

/-!
# The two parts of a store, changed in place

A store holds its entries in order, and an index of their places. An implementation changes one part
after the other, and gets at an entry by the place that the index gives, which may be no place at
all. Nothing but the calls keeps the two in step.

* `answer_parts`, `lookUp_parts`: on parts that are in step every call has a result, and leaves
  parts that are in step;
* `answerAll_parts`: so do calls one after the other;
* `identifiers_ofCalls`: identifiers are listed where they were inserted first;
* `calls_keep_in_step`: all of it, for the parts that any calls have left.
-/

namespace WidgetBindings.Store

/-- The two parts of a store. They are compared one by one. -/
structure Parts where
  entries : Array Entry
  index : Std.ExtTreeMap String Nat
  deriving DecidableEq

/-- The parts of a store, which are in step. -/
def parts (store : Store) : Parts := ⟨store.entries, store.index⟩

/-- The answer to a call. -/
abbrev Answer := Except Refusal Unit

namespace Parts

def empty : Parts := ⟨#[], ∅⟩

/-- Adds an entry to the index and then to the entries, unless its identifier is taken. -/
def insert (parts : Parts) (entry : Entry) : Answer × Parts :=
  if parts.index.contains entry.identifier then
    (.error (.duplicateIdentifier entry.identifier), parts)
  else
    let indexed := { parts with
      index := parts.index.insert entry.identifier parts.entries.size }
    (.ok (), { indexed with entries := indexed.entries.push entry })

/-- Sets one field of the entry at the place that the index gives for an identifier. There is no
result if it is no place. -/
def edit (parts : Parts) (id : String) (edit : Edit) : Option (Answer × Parts) :=
  match parts.index[id]? with
  | none => some (.error (.unknownIdentifier id), parts)
  | some place =>
    if place < parts.entries.size then
      some (.ok (), { parts with entries := parts.entries.modify place (Entry.apply · edit) })
    else none

/-- The entry at the place that the index gives for an identifier. There is no result if it is no
place. -/
def lookUp (parts : Parts) (id : String) : Option (Option Entry) :=
  match parts.index[id]? with
  | none => some none
  | some place => parts.entries[place]?.map some

def answer (parts : Parts) : Call → Option (Answer × Parts)
  | .insert entry => some (parts.insert entry)
  | .edit id edit => parts.edit id edit

/-- Calls with their answers, and the parts that they leave. -/
def answerAll (parts : Parts) : List Call → Option (List (Call × Answer) × Parts)
  | [] => some ([], parts)
  | call :: calls =>
    (parts.answer call).bind fun first =>
      (first.2.answerAll calls).map fun others => ((call, first.1) :: others.1, others.2)

end Parts

/-! ## Single calls -/

/-- The answer of a store to a call. -/
def answer (store : Store) (call : Call) : Answer := (store.tryCall call).map fun _ => ()

theorem place_lt (s : Store) {id : String} {place : Nat} (found : s.index[id]? = some place) :
    place < s.entries.size := by
  rw [s.coherent] at found
  obtain ⟨e, there, _⟩ := Option.map_eq_some_iff.1 found
  exact (Array.getElem?_eq_some_iff.1 there).1

/-- The index of a store never gives a place behind the end. -/
theorem lookUp_parts (s : Store) (id : String) : s.parts.lookUp id = some (s.get? id) := by
  unfold Parts.lookUp get?
  cases found : s.parts.index[id]? with
  | none =>
    have absent : s.index[id]? = none := found
    rw [absent]
    rfl
  | some place =>
    have present : s.index[id]? = some place := found
    have there := Array.getElem?_eq_getElem (s.place_lt present)
    rw [present]
    simp [parts, there]

theorem answer_of_ok {s t : Store} {c : Call} (h : s.tryCall c = .ok t) :
    s.answer c = .ok () ∧ s.call c = t := by
  rw [answer, call, h]
  exact ⟨rfl, rfl⟩

theorem answer_of_error {s : Store} {c : Call} {r : Refusal} (h : s.tryCall c = .error r) :
    s.answer c = .error r ∧ s.call c = s := by
  rw [answer, call, h]
  exact ⟨rfl, rfl⟩

theorem insert_parts (s : Store) (entry : Entry) :
    s.parts.insert entry = (s.answer (.insert entry), (s.call (.insert entry)).parts) := by
  unfold Parts.insert
  by_cases taken : entry.identifier ∈ s.index
  · have contained : s.parts.index.contains entry.identifier = true :=
      Std.ExtTreeMap.contains_iff_mem.2 taken
    have refused : s.tryCall (.insert entry) = .error (.duplicateIdentifier entry.identifier) := by
      rw [tryCall, insert, dif_pos taken]
    obtain ⟨told, same⟩ := answer_of_error refused
    rw [if_pos contained, told, same]
  · have free : ¬ s.parts.index.contains entry.identifier = true :=
      fun contained => taken (Std.ExtTreeMap.contains_iff_mem.1 contained)
    have added : ∃ t, s.tryCall (.insert entry) = .ok t ∧ t.parts =
        ⟨s.entries.push entry, s.index.insert entry.identifier s.entries.size⟩ := by
      rw [tryCall, insert, dif_neg taken]
      exact ⟨_, rfl, rfl⟩
    obtain ⟨t, accepted, changed⟩ := added
    obtain ⟨told, left⟩ := answer_of_ok accepted
    rw [if_neg free, told, left, changed]
    rfl

theorem edit_parts (s : Store) (id : String) (edit : Edit) :
    s.parts.edit id edit = some (s.answer (.edit id edit), (s.call (.edit id edit)).parts) := by
  unfold Parts.edit
  cases found : s.index[id]? with
  | none =>
    have absent : s.parts.index[id]? = none := found
    have refused : s.tryCall (.edit id edit) = .error (.unknownIdentifier id) := by
      rw [tryCall, Store.edit, found]
    obtain ⟨told, same⟩ := answer_of_error refused
    rw [absent, told, same]
  | some place =>
    have present : s.parts.index[id]? = some place := found
    have inside : place < s.parts.entries.size := s.place_lt found
    have made : ∃ t, s.tryCall (.edit id edit) = .ok t ∧ t.parts =
        ⟨s.entries.modify place (Entry.apply · edit), s.index⟩ := by
      rw [tryCall, Store.edit, found]
      exact ⟨_, rfl, rfl⟩
    obtain ⟨t, accepted, changed⟩ := made
    obtain ⟨told, left⟩ := answer_of_ok accepted
    rw [present, told, left, changed]
    exact if_pos inside

/-- A call keeps parts in step. -/
theorem answer_parts (s : Store) (c : Call) :
    s.parts.answer c = some (s.answer c, (s.call c).parts) := by
  cases c with
  | insert entry => exact congrArg some (s.insert_parts entry)
  | edit id edit => exact s.edit_parts id edit

/-! ## Calls one after the other -/

/-- Calls with the answers of a store. -/
def answers (store : Store) : List Call → List (Call × Answer)
  | [] => []
  | c :: calls => (c, store.answer c) :: (store.call c).answers calls

/-- Calls keep parts in step. -/
theorem answerAll_parts (s : Store) (calls : List Call) :
    s.parts.answerAll calls = some (s.answers calls, (calls.foldl call s).parts) := by
  induction calls generalizing s with
  | nil => rfl
  | cons c calls ih =>
    rw [Parts.answerAll, answer_parts, Option.bind_some, ih]
    rfl

theorem map_answers (s : Store) (calls : List Call) : (s.answers calls).map (·.1) = calls := by
  induction calls generalizing s with
  | nil => rfl
  | cons c calls ih => rw [answers, List.map_cons, ih]

/-- The identifier that a call has added to a store, given its answer. -/
def added? : Call × Answer → Option String
  | (.insert entry, .ok _) => some entry.identifier
  | (.insert _, .error _) | (.edit _ _, _) => none

/-- The identifier that a call wants to add. -/
def Call.inserted? : Call → Option String
  | .insert entry => some entry.identifier
  | .edit _ _ => none

theorem identifiers_call (s : Store) (c : Call) :
    (s.call c).identifiers = s.identifiers ++ (added? (c, s.answer c)).toList := by
  cases outcome : s.tryCall c with
  | error r =>
    obtain ⟨told, same⟩ := answer_of_error outcome
    rw [told, same]
    cases c <;> exact (List.append_nil _).symm
  | ok t =>
    obtain ⟨told, left⟩ := answer_of_ok outcome
    rw [told, left]
    cases c with
    | insert entry =>
      rw [identifiers, (insert_eq_ok_iff.1 outcome).2, List.map_append]
      rfl
    | edit id edit => exact (identifiers_edit outcome).trans (List.append_nil _).symm

theorem identifiers_answers (s : Store) (calls : List Call) :
    (calls.foldl call s).identifiers = s.identifiers ++ (s.answers calls).filterMap added? := by
  induction calls generalizing s with
  | nil => exact (List.append_nil _).symm
  | cons c calls ih =>
    rw [List.foldl_cons, ih, identifiers_call, List.append_assoc, answers, List.filterMap_cons]
    cases added? (c, s.answer c) <;> rfl

/-- An insertion adds its identifier unless it is there. -/
theorem identifiers_call_insert (s : Store) (entry : Entry) :
    (s.call (.insert entry)).identifiers =
      if entry.identifier ∈ s.identifiers then s.identifiers
      else s.identifiers ++ [entry.identifier] := by
  rw [identifiers_call]
  cases outcome : s.insert entry with
  | error r =>
    have told := (answer_of_error (c := .insert entry) outcome).1
    rw [told, if_pos (insert_eq_error_iff.1 outcome).1]
    exact List.append_nil _
  | ok t =>
    have told := (answer_of_ok (c := .insert entry) outcome).1
    rw [told, if_neg (insert_eq_ok_iff.1 outcome).1]
    rfl

/-- Of the insertions of an identifier the first one counts. -/
theorem identifiers_ofCalls (calls : List Call) :
    (ofCalls calls).identifiers = (calls.filterMap Call.inserted?).eraseDups := by
  induction calls using List.reverseRecOn with
  | nil => rfl
  | append_singleton calls c ih =>
    have next : ofCalls (calls ++ [c]) = (ofCalls calls).call c := List.foldl_append
    rw [next, List.filterMap_append]
    cases c with
    | insert entry =>
      have last : [Call.insert entry].filterMap Call.inserted? = [entry.identifier] := rfl
      rw [last, eraseDups_concat, identifiers_call_insert, ih]
      simp only [List.mem_eraseDups]
    | edit id edit =>
      have last : [Call.edit id edit].filterMap Call.inserted? = [] := rfl
      rw [last, List.append_nil, identifiers_call, ih]
      exact List.append_nil _

/-! ## The parts that calls have left -/

theorem insert_cases (s : Store) (entry : Entry) :
    if entry.identifier ∈ s.identifiers then
      s.parts.insert entry = (.error (.duplicateIdentifier entry.identifier), s.parts)
    else ∃ changed, s.parts.insert entry = (.ok (), changed) ∧
      changed.entries.toList = s.toList ++ [entry] := by
  rw [insert_parts]
  cases outcome : s.insert entry with
  | error r =>
    obtain ⟨taken, rfl⟩ := insert_eq_error_iff.1 outcome
    obtain ⟨told, same⟩ := answer_of_error (c := .insert entry) outcome
    rw [if_pos taken, told, same]
  | ok t =>
    obtain ⟨free, added⟩ := insert_eq_ok_iff.1 outcome
    obtain ⟨told, left⟩ := answer_of_ok (c := .insert entry) outcome
    rw [if_neg free, told, left]
    exact ⟨t.parts, rfl, added⟩

theorem edit_cases (s : Store) (id : String) (edit : Edit) :
    if id ∈ s.identifiers then
      ∃ changed, s.parts.edit id edit = some (.ok (), changed) ∧
        changed.entries.toList = s.toList.map (editFor id edit)
    else s.parts.edit id edit = some (.error (.unknownIdentifier id), s.parts) := by
  rw [edit_parts]
  cases outcome : s.edit id edit with
  | error r =>
    obtain ⟨absent, rfl⟩ := edit_eq_error_iff.1 outcome
    obtain ⟨told, same⟩ := answer_of_error (c := .edit id edit) outcome
    rw [if_neg absent, told, same]
  | ok t =>
    obtain ⟨there, made⟩ := edit_eq_ok_iff.1 outcome
    obtain ⟨told, left⟩ := answer_of_ok (c := .edit id edit) outcome
    rw [if_pos there, told, left]
    exact ⟨t.parts, rfl, made⟩

/-- The entries determine the index. -/
theorem parts_eq_iff (s t : Store) : s.parts = t.parts ↔ s.toList = t.toList := by
  constructor
  · intro same
    exact congrArg (fun parts => parts.entries.toList) same
  · intro same
    rw [ext same]

/-- **Calls keep the two parts of a store in step.** Whatever calls are made one after the other,
every one of them has an answer, and the parts that they leave are those of a store. It lists no
identifier twice, and each where an insertion first added it. It contains what it lists, and looking
up finds the entry that is listed, never a place without one. An insertion fails exactly if its
identifier is listed, an edit exactly if it is not, and a call that fails leaves the parts as they
were. The parts of two such stores are the same exactly if the stores list the same entries. -/
theorem calls_keep_in_step (calls : List Call) :
    let store := ofCalls calls
    (∃ answers, Parts.empty.answerAll calls = some (answers, store.parts) ∧
      answers.map (·.1) = calls ∧ store.identifiers = answers.filterMap added?) ∧
    store.identifiers.Nodup ∧
    store.identifiers = (calls.filterMap Call.inserted?).eraseDups ∧
    (∀ id, store.contains id = true ↔ id ∈ store.identifiers) ∧
    (∀ id, store.parts.lookUp id = some (store.get? id)) ∧
    (∀ id e, store.get? id = some e ↔ e ∈ store.toList ∧ e.identifier = id) ∧
    store.size = store.toList.length ∧
    (∀ entry, if entry.identifier ∈ store.identifiers then
        store.parts.insert entry = (.error (.duplicateIdentifier entry.identifier), store.parts)
      else ∃ changed, store.parts.insert entry = (.ok (), changed) ∧
        changed.entries.toList = store.toList ++ [entry]) ∧
    (∀ id edit, if id ∈ store.identifiers then
        ∃ changed, store.parts.edit id edit = some (.ok (), changed) ∧
          changed.entries.toList = store.toList.map (editFor id edit)
      else store.parts.edit id edit = some (.error (.unknownIdentifier id), store.parts)) ∧
    ∀ others, store.parts = (ofCalls others).parts ↔ store.toList = (ofCalls others).toList := by
  intro store
  have listed := identifiers_answers empty calls
  exact ⟨⟨empty.answers calls, answerAll_parts empty calls, map_answers empty calls, listed⟩,
    store.nodup_identifiers, identifiers_ofCalls calls, store.contains_iff, store.lookUp_parts,
    store.get?_eq_some_iff, store.length_toList.symm, store.insert_cases, store.edit_cases,
    fun others => parts_eq_iff store (ofCalls others)⟩

end WidgetBindings.Store
