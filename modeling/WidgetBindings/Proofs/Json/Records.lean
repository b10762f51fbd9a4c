import WidgetBindings.Proofs.Json.Containers
import WidgetBindings.Proofs.Outcome

/-!
# Objects where something is expected

A text that unfolds into members is read where a map or a record is expected, on one line as well as
spread over lines.

* `readable_mapOf`: a map, if each of its values is readable;
* `readable_record`: a record, if its members take its reader from no field to all of them;
* `readable_variant`: a member of a vocabulary, if its reader knows the tag;
* `Readable.all`: a whole text, with nothing but blanks after it.
-/

namespace WidgetBindings.Json.Read

variable {σ α : Type} {text : String} {a : α}

section

variable {step : σ → String → List UInt8 → Except Trouble (σ × List UInt8)} {state final : σ}
  {print : Json → String} {members : List (String × Json)}

/-- The reader of an object is taken all the way, and then past the closing bracket. -/
theorem Unfolds.exists_object (unfolds : Unfolds print members text)
    (takes : Takes print step state members final) :
    ∃ bytes, Text.toBytes text = 123 :: bytes ∧
      ∀ rest, object step state (bytes ++ rest) = .ok (final, rest) := by
  obtain ⟨bytes, same, reads⟩ := unfolds
  refine ⟨bytes, same, fun rest => ?_⟩
  rw [object, reads rest takes]
  rfl

theorem takes_keyed {read : List UInt8 → Except Fault (α × List UInt8)}
    {entries : List (String × α)} (toJson : α → Json) (set : σ → String → α → σ) (state : σ)
    (readable : ∀ m ∈ entries, Readable read (print (toJson m.2)) m.2) :
    Takes print (keyed read set) state (entries.map fun m => (m.1, toJson m.2))
      (entries.foldl (fun s m => set s m.1 m.2) state) := by
  induction entries generalizing state with
  | nil => exact .nil state
  | cons m entries ih =>
    obtain ⟨first, others⟩ := List.forall_mem_cons.1 readable
    exact .cons (first.keyed set state m.1) (ih _ others)

/-- An object is read where a map is expected, if each of its values is. -/
theorem readable_mapOf {read : Nat → List UInt8 → Except Fault (α × List UInt8)} {depth : Nat}
    {entries : List (String × α)} (toJson : α → Json) (set : σ → String → α → σ) (state : σ)
    (unfolds : Unfolds print (entries.map fun m => (m.1, toJson m.2)) text)
    (readable : ∀ m ∈ entries, Readable (read depth) (print (toJson m.2)) m.2) :
    Readable (mapOf (depth + 1) read set state) text
      (entries.foldl (fun s m => set s m.1 m.2) state) := by
  obtain ⟨bytes, same, reads⟩ := unfolds.exists_object (takes_keyed toJson set state readable)
  refine ⟨⟨123, bytes, same, rfl, by decide⟩, fun {unread rest} h _ => ?_⟩
  rw [same, List.cons_append] at h
  rw [mapOf, h]
  exact reads rest

/-- A field that has not been read yet is read from its member. -/
theorem Takes.field {read : List UInt8 → Except Fault (α × List UInt8)} {name : String}
    {value : Json} (set : α → σ) (readable : Readable read (print value) a)
    (own : ∀ unread, step state name unread = once name none read set unread)
    (others : Takes print step (set a) members final) :
    Takes print step state ((name, value) :: members) final := by
  refine .cons ?_ others
  simp only [own]
  exact readable.once name set

/-- An object is read where a record is expected, if its members are the fields. -/
theorem readable_record {name : String} {depth : Nat}
    {ofList ofObject : Nat → List UInt8 → Except Trouble (α × List UInt8)}
    (finish : σ → List UInt8 → Except Trouble (α × List UInt8))
    (fields : ∀ unread, ofObject depth unread =
      (Read.members step (unread.length + 1) true state unread).bind fun found =>
        finish found.1 found.2)
    (unfolds : Unfolds print members text) (takes : Takes print step state members final)
    (finishes : ∀ unread, finish final unread = .ok (a, unread)) :
    Readable (record name (depth + 1) ofList ofObject) text a := by
  obtain ⟨bytes, same, reads⟩ := unfolds
  refine ⟨⟨123, bytes, same, rfl, by decide⟩, fun {unread rest} h _ => ?_⟩
  rw [same, List.cons_append] at h
  rw [record, h]
  change leaveObject (ofObject depth (bytes ++ rest)) = _
  rw [fields, reads rest takes]
  change leaveObject (finish final (125 :: rest)) = _
  rw [finishes]
  rfl

end

/-- A tag is read where a member of a vocabulary is expected. -/
theorem readable_variant (depth : Nat) (known : List String) {ofTag? : String → Option α}
    {tag : String} (named : ofTag? tag = some a) :
    Readable (variant depth known ofTag?) (stringText tag) a := by
  refine ⟨starts_stringText tag, fun {unread rest} h _ => ?_⟩
  rw [toBytes_stringText, List.cons_append, List.append_assoc] at h
  rw [variant, h]
  change variant.named known ofTag? (string _) = _
  rw [List.singleton_append, string_printed]
  simp only [variant.named, named]

/-! ## Whole texts -/

theorem all_eq_ok_iff {read : List UInt8 → Except Fault (α × List UInt8)} {bytes : List UInt8} :
    all read bytes = .ok a ↔ ∃ behind, read bytes = .ok (a, behind) ∧ skipBlanks behind = [] := by
  constructor
  · intro h
    obtain ⟨⟨b, behind⟩, found, h⟩ := bind_eq_ok_iff.1 (mapError_eq_ok h)
    simp only at h
    split at h
    · rename_i blanks
      cases h
      exact ⟨behind, found, blanks⟩
    · cases h
  · rintro ⟨behind, found, blanks⟩
    simp only [all, found, blanks, bind, Except.bind]
    rfl

/-- What a reader gets from a text, it gets from the text with blanks after it. -/
theorem Readable.all {read : List UInt8 → Except Fault (α × List UInt8)}
    (readable : Readable read text a) {blanks : List UInt8} (blank : ∀ b ∈ blanks, isBlankByte b) :
    Read.all read (Text.toBytes text ++ blanks) = .ok a := by
  have ended : Ended blanks := fun b first => .inl (blank b (List.mem_of_head? first))
  have nothing : skipBlanks blanks = [] := by
    rw [← List.append_nil blanks, skipBlanks_append blank]
    rfl
  exact all_eq_ok_iff.2 ⟨blanks, readable.reads (readable.skipBlanks_text blanks) ended, nothing⟩

/-- What a reader gets from a text, it gets from the text with a line feed after it. -/
theorem Readable.all_line {read : List UInt8 → Except Fault (α × List UInt8)}
    (readable : Readable read text a) : Read.all read (Text.toBytes (text ++ "\n")) = .ok a := by
  have lineFeed : Text.toBytes "\n" = [10] := by decide
  rw [Text.toBytes_append, lineFeed]
  exact readable.all (List.forall_mem_singleton.2 rfl)

end WidgetBindings.Json.Read
