import Std.Data.ExtTreeMap
import WidgetBindings.Entry

/-!
# The store

The entries of a project in the order in which they were added, with an index from identifiers to
positions. Entries are never removed and an identifier never changes, so the index stays coherent:
`coherent` says that it holds exactly the positions of the entries. Seen from outside a store is the
list `toList` of its entries, and two stores with the same list are the same (`Store.ext`).
-/

namespace WidgetBindings

/-- Entries in order, with the position of each identifier. -/
structure Store where
  entries : Array Entry
  index : Std.ExtTreeMap String Nat
  coherent : ∀ id i, index[id]? = some i ↔ entries[i]?.map Entry.identifier = some id

namespace Store

def empty : Store where
  entries := #[]
  index := ∅
  coherent := by simp

def toList (store : Store) : List Entry := store.entries.toList

def size (store : Store) : Nat := store.entries.size

def identifiers (store : Store) : List String := store.toList.map Entry.identifier

def contains (store : Store) (id : String) : Bool := store.index.contains id

def get? (store : Store) (id : String) : Option Entry :=
  store.index[id]?.bind fun i => store.entries[i]?

theorem coherent_push {entries : Array Entry} {index : Std.ExtTreeMap String Nat}
    (h : ∀ id i, index[id]? = some i ↔ entries[i]?.map Entry.identifier = some id)
    {entry : Entry} (absent : entry.identifier ∉ index) (id : String) (i : Nat) :
    (index.insert entry.identifier entries.size)[id]? = some i ↔
      (entries.push entry)[i]?.map Entry.identifier = some id := by
  rw [Std.ExtTreeMap.getElem?_insert, Array.getElem?_push]
  by_cases hid : entry.identifier = id
  · subst hid
    simp only [Std.compare_self, if_true]
    constructor
    · rintro ⟨⟩
      simp
    · intro hi
      by_cases hs : i = entries.size
      · simp [hs]
      · rw [if_neg hs, ← h] at hi
        exact absurd (Std.ExtTreeMap.mem_iff_isSome_getElem?.2 (by simp [hi])) absent
  · rw [if_neg (by simpa using hid)]
    by_cases hs : i = entries.size
    · subst hs
      simp only [if_true, Option.map_some, Option.some.injEq, hid, iff_false]
      rw [h]
      simp
    · rw [if_neg hs, h]

theorem coherent_modify {entries : Array Entry} {index : Std.ExtTreeMap String Nat}
    (h : ∀ id i, index[id]? = some i ↔ entries[i]?.map Entry.identifier = some id)
    (place : Nat) (edit : Edit) (id : String) (i : Nat) :
    index[id]? = some i ↔
      (entries.modify place (Entry.apply · edit))[i]?.map Entry.identifier = some id := by
  rw [h, Array.getElem?_modify]
  by_cases hi : place = i
  · simp [hi, Option.map_map, Function.comp_def]
  · simp [hi]

/-- Adds an entry at the end, unless its identifier is taken. -/
def insert (store : Store) (entry : Entry) : Except Refusal Store :=
  if h : entry.identifier ∈ store.index then .error (.duplicateIdentifier entry.identifier)
  else .ok {
    entries := store.entries.push entry
    index := store.index.insert entry.identifier store.entries.size
    coherent := coherent_push store.coherent h }

/-- Sets one field of the entry for an identifier, if there is one. -/
def edit (store : Store) (id : String) (edit : Edit) : Except Refusal Store :=
  match store.index[id]? with
  | none => .error (.unknownIdentifier id)
  | some i => .ok {
    entries := store.entries.modify i (Entry.apply · edit)
    index := store.index
    coherent := coherent_modify store.coherent i edit }

/-- Makes edits one after the other and skips those for which there is no entry. -/
def editAll (store : Store) (edits : List (String × Edit)) : Store :=
  edits.foldl (fun s e => match s.edit e.1 e.2 with | .ok s' => s' | .error _ => s) store

/-- Adds entries one after the other, up to the first whose identifier is taken. -/
def ofList (entries : List Entry) : Except Refusal Store := entries.foldlM insert empty

theorem index_eq_of_entries_eq {s t : Store} (h : s.entries = t.entries) : s.index = t.index := by
  apply Std.ExtTreeMap.ext_getElem?
  intro id
  apply Option.ext
  intro i
  rw [s.coherent, t.coherent, h]

@[ext] theorem ext {s t : Store} (h : s.toList = t.toList) : s = t := by
  have he : s.entries = t.entries := Array.toList_inj.1 h
  have hi := index_eq_of_entries_eq he
  obtain ⟨se, si, sc⟩ := s
  obtain ⟨te, ti, tc⟩ := t
  subst he hi
  rfl

/-- Stores are compared component by component. -/
instance : DecidableEq Store := fun s t =>
  if h : s.entries = t.entries ∧ s.index = t.index then
    .isTrue (ext (by simp [toList, h.1]))
  else .isFalse (fun e => h (by simp [e]))

end Store

end WidgetBindings
