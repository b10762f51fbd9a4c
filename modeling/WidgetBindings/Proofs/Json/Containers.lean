import WidgetBindings.Json.Record
import WidgetBindings.Proofs.Json.Strings

/-!
# Printed lists and objects are read back

* `Readable`: a reader gets a value from a text, with any blanks before it and a separator after it;
* `list_printed`: if each item of a printed list is readable, so is the list, and the items go into
  the state of its reader one after the other;
* `Unfolds`: a text is an object that is read member by member, each from the state that the ones
  before it have left (`Takes`). How the members are laid out does not matter then;
* `unfolds_pretty`: an object spread over lines is such a text.
-/

namespace WidgetBindings.Json.Read

/-- Nothing that could go on with a value comes next. -/
def Ended (rest : List UInt8) : Prop :=
  ∀ b ∈ rest.head?, isBlankByte b ∨ b = 44 ∨ b = 93 ∨ b = 125

/-- A reader that passes over blanks gets a value from a text. -/
structure Readable {ε α : Type} (read : List UInt8 → Except ε (α × List UInt8)) (text : String)
    (a : α) : Prop where
  starts : ∃ b bytes, Text.toBytes text = b :: bytes ∧ isBlankByte b = false ∧ b ≠ 93
  reads : ∀ {unread rest}, skipBlanks unread = Text.toBytes text ++ rest → Ended rest →
    read unread = .ok (a, rest)

/-! ## Blanks -/

theorem skipBlanks_append {blanks : List UInt8} (h : ∀ b ∈ blanks, isBlankByte b)
    (rest : List UInt8) : skipBlanks (blanks ++ rest) = skipBlanks rest :=
  List.dropWhile_append_of_pos h

theorem skipBlanks_cons {b : UInt8} (h : isBlankByte b = false) (rest : List UInt8) :
    skipBlanks (b :: rest) = b :: rest := by
  rw [skipBlanks, List.dropWhile_cons_of_neg (by simp [h])]

theorem isBlankByte_newLine (level : Nat) : ∀ b ∈ Text.toBytes (newLine level), isBlankByte b := by
  intro b hb
  rw [newLine, Text.toBytes_ofList, List.flatMap_cons, List.mem_append, List.mem_flatMap] at hb
  obtain hb | ⟨c, hc, hb⟩ := hb
  · obtain rfl := List.mem_singleton.1 hb
    rfl
  · obtain rfl := List.eq_of_mem_replicate hc
    obtain rfl := List.mem_singleton.1 hb
    rfl

@[simp] theorem skipBlanks_newLine (level : Nat) (rest : List UInt8) :
    skipBlanks (Text.toBytes (newLine level) ++ rest) = skipBlanks rest :=
  skipBlanks_append (isBlankByte_newLine level) rest

theorem ended_newLine (level : Nat) (rest : List UInt8) :
    Ended (Text.toBytes (newLine level) ++ rest) := by
  intro b hb
  have first : (Text.toBytes (newLine level) ++ rest).head? = some 10 := by
    rw [newLine, Text.toBytes_ofList]
    rfl
  rw [first, Option.mem_some_iff] at hb
  exact .inl (hb ▸ rfl)

theorem ended_cons {b : UInt8} (h : b = 44 ∨ b = 93 ∨ b = 125) (rest : List UInt8) :
    Ended (b :: rest) := by
  intro c hc
  rw [List.head?_cons, Option.mem_some_iff] at hc
  exact .inr (hc ▸ h)

theorem Readable.skipBlanks_text {ε α : Type} {read : List UInt8 → Except ε (α × List UInt8)}
    {text : String} {a : α} (h : Readable read text a) (rest : List UInt8) :
    skipBlanks (Text.toBytes text ++ rest) = Text.toBytes text ++ rest := by
  obtain ⟨b, bytes, same, blank, _⟩ := h.starts
  rw [same, List.cons_append, skipBlanks_cons blank]

/-! ## Strings and truth values -/

theorem toBytes_stringText (s : String) : Text.toBytes (stringText s) =
    34 :: ((s.toList.flatMap escapedChar).flatMap String.utf8EncodeChar ++ [34]) := by
  have quote : Text.toBytes "\"" = [34] := by decide
  rw [stringText, Text.toBytes_append, Text.toBytes_append, quote,
    Text.toBytes_ofList (s.toList.flatMap escapedChar), List.cons_append, List.nil_append,
    List.cons_append]

theorem starts_stringText (s : String) :
    ∃ b bytes, Text.toBytes (stringText s) = b :: bytes ∧ isBlankByte b = false ∧ b ≠ 93 :=
  ⟨34, _, toBytes_stringText s, rfl, by decide⟩

theorem readable_text (expected s : String) : Readable (text expected) (stringText s) s := by
  refine ⟨starts_stringText s, fun h _ => ?_⟩
  rw [toBytes_stringText, List.cons_append, List.append_assoc] at h
  rw [text, h]
  exact string_printed s _

theorem readable_string (depth level : Nat) (s : String) :
    Readable (value depth) (prettyAt level (.string s)) (.string s) := by
  rw [prettyAt]
  refine ⟨starts_stringText s, fun {unread rest} h _ => ?_⟩
  rw [toBytes_stringText, List.cons_append, List.append_assoc] at h
  have found : scalar 34 ((s.toList.flatMap escapedChar).flatMap String.utf8EncodeChar ++
      ([34] ++ rest)) = .ok (.string s, rest) := by
    simp only [scalar, List.singleton_append, string_printed, bind, Except.bind]
    rfl
  rw [value, h]
  exact found

/-- The words for truth values, to whatever takes them. -/
theorem readable_word {ε α : Type} {read : List UInt8 → Except ε (α × List UInt8)} {b : Bool}
    {a : α}
    (reads : ∀ {unread rest}, skipBlanks unread =
      (if b then [116, 114, 117, 101] else [102, 97, 108, 115, 101]) ++ rest →
        read unread = .ok (a, rest)) : Readable read (if b then "true" else "false") a := by
  have bytes : Text.toBytes (if b then "true" else "false") =
      if b then [116, 114, 117, 101] else [102, 97, 108, 115, 101] := by
    cases b <;> decide
  refine ⟨?_, fun h _ => reads (bytes ▸ h)⟩
  rw [bytes]
  cases b with
  | true => exact ⟨116, _, rfl, rfl, by decide⟩
  | false => exact ⟨102, _, rfl, rfl, by decide⟩

theorem readable_bool (depth level : Nat) (b : Bool) :
    Readable (value depth) (prettyAt level (.bool b)) (.bool b) := by
  rw [prettyAt]
  refine readable_word fun h => ?_
  rw [value, h]
  cases b <;> rfl

theorem readable_flag (b : Bool) : Readable flag (if b then "true" else "false") b := by
  refine readable_word fun h => ?_
  rw [flag, h]
  cases b <;> rfl

/-! ## Lists -/

section

variable {σ : Type} {step : σ → List UInt8 → Except Fault (σ × List UInt8)} {state next : σ}
  {text : String} {unread rest : List UInt8}

theorem elements_end (first : Bool) (fuel : Nat) (h : skipBlanks unread = 93 :: rest) :
    elements step (fuel + 1) first state unread = .ok (state, 93 :: rest) := by
  have found : nextElement first unread = .ok (false, 93 :: rest) := by
    rw [nextElement, h]
    rfl
  rw [elements, found]
  rfl

theorem elements_next {first : Bool} {found : List UInt8} (fuel : Nat)
    (h : nextElement first unread = .ok (true, found))
    (reads : step state found = .ok (next, rest)) :
    elements step (fuel + 1) first state unread = elements step fuel false next rest := by
  simp only [elements, h, reads, bind, Except.bind, if_true]

theorem elements_first (readable : Readable (step state) text next) (fuel : Nat)
    (h : skipBlanks unread = Text.toBytes text ++ rest) (ended : Ended rest) :
    elements step (fuel + 1) true state unread = elements step fuel false next rest := by
  obtain ⟨b, bytes, same, _, bracket⟩ := readable.starts
  have found : nextElement true unread = .ok (true, Text.toBytes text ++ rest) := by
    rw [nextElement, h, same, List.cons_append]
    change (if b = 93 then _ else _) = _
    rw [if_neg bracket]
    rfl
  exact elements_next fuel found (readable.reads (readable.skipBlanks_text rest) ended)

theorem elements_comma (readable : Readable (step state) text next) (fuel : Nat)
    (h : skipBlanks unread = Text.toBytes text ++ rest) (ended : Ended rest) :
    elements step (fuel + 1) false state (44 :: unread) = elements step fuel false next rest := by
  obtain ⟨b, bytes, same, _, bracket⟩ := readable.starts
  have found : nextElement false (44 :: unread) = .ok (true, Text.toBytes text ++ rest) := by
    rw [same, List.cons_append] at h ⊢
    rw [nextElement, skipBlanks_cons rfl]
    simp only [h, if_neg bracket]
    rfl
  exact elements_next fuel found (readable.reads (readable.skipBlanks_text rest) ended)

end

/-- The bytes of items after the first one. -/
def furtherItems (level : Nat) (items : List Json) : List UInt8 :=
  items.flatMap fun i => 44 :: (Text.toBytes (newLine level) ++ Text.toBytes (prettyAt level i))

theorem toBytes_prettyItems (level : Nat) (item : Json) (items : List Json) :
    Text.toBytes (prettyItems level (item :: items)) =
      Text.toBytes (newLine level) ++ (Text.toBytes (prettyAt level item) ++
        furtherItems level items) := by
  have comma : Text.toBytes "," = [44] := by decide
  induction items generalizing item with
  | nil => simp [prettyItems, furtherItems]
  | cons i items ih => simp [prettyItems, ih, furtherItems, comma]

theorem ended_furtherItems (level : Nat) (items : List Json) (outer : Nat) (rest : List UInt8) :
    Ended (furtherItems level items ++ (Text.toBytes (newLine outer) ++ rest)) := by
  cases items with
  | nil => exact ended_newLine outer rest
  | cons i items => exact ended_cons (.inl rfl) _

theorem length_le_furtherItems (level : Nat) (items : List Json) :
    items.length ≤ (furtherItems level items).length := by
  induction items with
  | nil => exact Nat.le_refl _
  | cons i items ih =>
    rw [furtherItems, List.flatMap_cons, ← furtherItems, List.length_append, List.length_cons,
      List.length_cons]
    omega

theorem elements_further {σ β : Type} {step : σ → List UInt8 → Except Fault (σ × List UInt8)}
    {next : σ → β → σ} {toJson : β → Json} {level outer : Nat} {items : List β} (fuel : Nat)
    (readable : ∀ i ∈ items, ∀ s, Readable (step s) (prettyAt level (toJson i)) (next s i))
    (enough : items.length < fuel) (state : σ) (rest : List UInt8) :
    elements step fuel false state
        (furtherItems level (items.map toJson) ++ (Text.toBytes (newLine outer) ++ 93 :: rest)) =
      .ok (items.foldl next state, 93 :: rest) := by
  induction items generalizing fuel state with
  | nil =>
    obtain ⟨fuel, rfl⟩ := Nat.exists_eq_succ_of_ne_zero (Nat.ne_zero_of_lt enough)
    refine elements_end false fuel ?_
    rw [List.map_nil, furtherItems, List.flatMap_nil, List.nil_append, skipBlanks_newLine,
      skipBlanks_cons rfl]
  | cons i items ih =>
    obtain ⟨first, readable⟩ := List.forall_mem_cons.1 readable
    obtain ⟨fuel, rfl⟩ := Nat.exists_eq_succ_of_ne_zero (Nat.ne_zero_of_lt enough)
    have split : furtherItems level ((i :: items).map toJson) ++
        (Text.toBytes (newLine outer) ++ 93 :: rest) =
        44 :: (Text.toBytes (newLine level) ++ (Text.toBytes (prettyAt level (toJson i)) ++
          (furtherItems level (items.map toJson) ++
            (Text.toBytes (newLine outer) ++ 93 :: rest)))) := by
      simp [furtherItems]
    have begins := (first state).skipBlanks_text
      (furtherItems level (items.map toJson) ++ (Text.toBytes (newLine outer) ++ 93 :: rest))
    rw [← skipBlanks_newLine level] at begins
    rw [split, elements_comma (first state) fuel begins (ended_furtherItems level _ outer _)]
    exact ih fuel readable (Nat.lt_of_succ_lt_succ enough) _

/-- What follows the bracket of a printed list is read item by item. -/
theorem list_printed {β : Type} (toJson : β → Json) (level : Nat) (items : List β) :
    ∃ bytes, Text.toBytes (prettyAt level (.array (items.map toJson))) = 91 :: bytes ∧
      ∀ {σ : Type} (step : σ → List UInt8 → Except Fault (σ × List UInt8)) (next : σ → β → σ)
        (state : σ) (rest : List UInt8),
        (∀ i ∈ items, ∀ s, Readable (step s) (prettyAt (level + 1) (toJson i)) (next s i)) →
        list step state (bytes ++ rest) = .ok (items.foldl next state, rest) := by
  cases items with
  | nil =>
    refine ⟨[93], by rw [List.map_nil, prettyAt]; decide, fun step next state rest _ => ?_⟩
    have read : elements step (([93] ++ rest).length + 1) true state ([93] ++ rest) =
        .ok (state, 93 :: rest) := elements_end true _ (skipBlanks_cons rfl rest)
    rw [list, read]
    rfl
  | cons i items =>
    refine ⟨Text.toBytes (newLine (level + 1)) ++ (Text.toBytes (prettyAt (level + 1) (toJson i)) ++
      (furtherItems (level + 1) (items.map toJson) ++ (Text.toBytes (newLine level) ++ [93]))),
      ?_, ?_⟩
    · have opening : Text.toBytes "[" = [91] := by decide
      have closing : Text.toBytes "]" = [93] := by decide
      simp [prettyAt, toBytes_prettyItems, opening, closing]
    · intro σ step next state rest readable
      obtain ⟨first, readable⟩ := List.forall_mem_cons.1 readable
      have enough := length_le_furtherItems (level + 1) (items.map toJson)
      rw [List.length_map] at enough
      have begins := (first state).skipBlanks_text
        (furtherItems (level + 1) (items.map toJson) ++
          (Text.toBytes (newLine level) ++ 93 :: rest))
      rw [← skipBlanks_newLine (level + 1)] at begins
      rw [list]
      simp only [List.append_assoc, List.singleton_append]
      rw [elements_first (first state) _ begins (ended_furtherItems _ _ _ _),
        elements_further _ readable (by simp only [List.length_append, List.length_cons]; omega)]
      rfl

theorem Readable.appended {β : Type} {read : List UInt8 → Except Fault (β × List UInt8)}
    {text : String} {b : β} (readable : Readable read text b) (before : List β) :
    Readable (fun unread => do
      let (item, unread) ← read unread
      .ok (before ++ [item], unread)) text (before ++ [b]) := by
  refine ⟨readable.starts, fun {unread rest} h ended => ?_⟩
  rw [readable.reads h ended]
  rfl

theorem foldl_concat {β : Type} (items : List β) :
    items.foldl (fun before i => before ++ [i]) [] = items := by
  rw [List.foldl_append_eq_append, ← List.flatMap_def, List.flatMap_singleton', List.nil_append]

/-- A printed list is read where a list is expected, if each of its items is. -/
theorem readable_listOf {β : Type} {read : Nat → List UInt8 → Except Fault (β × List UInt8)}
    {toJson : β → Json} {depth level : Nat} {items : List β}
    (readable : ∀ i ∈ items, Readable (read depth) (prettyAt (level + 1) (toJson i)) i) :
    Readable (listOf (depth + 1) read) (prettyAt level (.array (items.map toJson))) items := by
  obtain ⟨bytes, same, reads⟩ := list_printed toJson level items
  refine ⟨⟨91, bytes, same, rfl, by decide⟩, fun {unread rest} h _ => ?_⟩
  have all := reads _ (fun before i => before ++ [i]) [] rest
    fun i hi before => (readable i hi).appended before
  rw [foldl_concat] at all
  rw [same, List.cons_append] at h
  rw [listOf, h]
  exact all

/-! ## Objects -/

section

variable {σ : Type} {step : σ → String → List UInt8 → Except Trouble (σ × List UInt8)}
  {state next : σ} {key : String} {unread found rest : List UInt8}

theorem members_end (first : Bool) (fuel : Nat) (h : skipBlanks unread = 125 :: rest) :
    members step (fuel + 1) first state unread = .ok (state, 125 :: rest) := by
  have closed : nextKey first unread = .ok (false, 125 :: rest) := by
    rw [nextKey, h]
    rfl
  rw [members, closed]
  rfl

theorem members_next {first : Bool} {inner : List UInt8} (fuel : Nat)
    (h : nextKey first unread = .ok (true, inner)) (named : string inner = .ok (key, found))
    (reads : step state key found = .ok (next, rest)) :
    members step (fuel + 1) first state unread = members step fuel false next rest := by
  simp only [members, h, named, reads, inside, bind, Except.bind, if_true]

theorem members_first (fuel : Nat)
    (h : skipBlanks unread = Text.toBytes (stringText key) ++ found)
    (reads : step state key found = .ok (next, rest)) :
    members step (fuel + 1) true state unread = members step fuel false next rest := by
  rw [toBytes_stringText, List.cons_append, List.append_assoc, List.singleton_append] at h
  refine members_next fuel ?_ (string_printed key found) reads
  rw [nextKey, h]
  rfl

theorem members_comma (fuel : Nat)
    (h : skipBlanks unread = Text.toBytes (stringText key) ++ found)
    (reads : step state key found = .ok (next, rest)) :
    members step (fuel + 1) false state (44 :: unread) = members step fuel false next rest := by
  rw [toBytes_stringText, List.cons_append, List.append_assoc, List.singleton_append] at h
  refine members_next fuel ?_ (string_printed key found) reads
  rw [nextKey, skipBlanks_cons rfl]
  simp only [h]
  rfl

theorem colon_cons (unread : List UInt8) : colon (58 :: unread) = .ok unread := by
  rw [colon, skipBlanks_cons rfl]
  rfl

theorem Readable.keyed {α : Type} {read : List UInt8 → Except Fault (α × List UInt8)}
    {text : String} {a : α} (readable : Readable read text a) (set : σ → String → α → σ)
    (state : σ) (key : String) :
    Readable (fun unread => Read.keyed read set state key (58 :: unread)) text
      (set state key a) := by
  refine ⟨readable.starts, fun {unread rest} h ended => ?_⟩
  rw [Read.keyed, colon_cons]
  change inside ((read unread).bind fun found => .ok (set state key found.1, found.2)) = _
  rw [readable.reads h ended]
  rfl

theorem Readable.once {α : Type} {read : List UInt8 → Except Fault (α × List UInt8)}
    {text : String} {a : α} (readable : Readable read text a) (name : String) (set : α → σ) :
    Readable (fun unread => Read.once name none read set (58 :: unread)) text (set a) := by
  refine ⟨readable.starts, fun {unread rest} h ended => ?_⟩
  rw [Read.once, Option.isSome_none, if_neg Bool.false_ne_true, colon_cons]
  change inside ((read unread).bind fun found => .ok (set found.1, found.2)) = _
  rw [readable.reads h ended]
  rfl

end

/-- The bytes of the colon after a key, and of the value. -/
def valueBytes (level : Nat) (value : Json) : List UInt8 :=
  58 :: 32 :: Text.toBytes (prettyAt level value)

/-- The bytes of members after the first one. -/
def furtherMembers (level : Nat) (members : List (String × Json)) : List UInt8 :=
  members.flatMap fun m => 44 :: (Text.toBytes (newLine level) ++
    (Text.toBytes (stringText m.1) ++ valueBytes level m.2))

theorem toBytes_prettyMembers (level : Nat) (member : String × Json)
    (members : List (String × Json)) :
    Text.toBytes (prettyMembers level (member :: members)) =
      Text.toBytes (newLine level) ++ (Text.toBytes (stringText member.1) ++
        (valueBytes level member.2 ++ furtherMembers level members)) := by
  have comma : Text.toBytes "," = [44] := by decide
  have colon : Text.toBytes ": " = [58, 32] := by decide
  induction members generalizing member with
  | nil => simp [prettyMembers, furtherMembers, valueBytes, colon]
  | cons m members ih => simp [prettyMembers, ih, furtherMembers, valueBytes, comma, colon]

theorem ended_furtherMembers (level : Nat) (members : List (String × Json)) (outer : Nat)
    (rest : List UInt8) :
    Ended (furtherMembers level members ++ (Text.toBytes (newLine outer) ++ rest)) := by
  cases members with
  | nil => exact ended_newLine outer rest
  | cons m members => exact ended_cons (.inl rfl) _

theorem length_le_furtherMembers (level : Nat) (members : List (String × Json)) :
    members.length ≤ (furtherMembers level members).length := by
  induction members with
  | nil => exact Nat.le_refl _
  | cons m members ih =>
    rw [furtherMembers, List.flatMap_cons, ← furtherMembers, List.length_append, List.length_cons,
      List.length_cons]
    omega

theorem skipBlanks_key (level : Nat) (key : String) (rest : List UInt8) :
    skipBlanks (Text.toBytes (newLine level) ++ (Text.toBytes (stringText key) ++ rest)) =
      Text.toBytes (stringText key) ++ rest := by
  rw [skipBlanks_newLine, toBytes_stringText, List.cons_append, skipBlanks_cons rfl]

/-- A member is read if its value is. -/
theorem step_valueBytes {σ : Type}
    {step : σ → String → List UInt8 → Except Trouble (σ × List UInt8)} {state next : σ}
    {level : Nat} {key : String} {value : Json} {rest : List UInt8}
    (readable : Readable (fun unread => step state key (58 :: unread)) (prettyAt level value) next)
    (ended : Ended rest) : step state key (valueBytes level value ++ rest) = .ok (next, rest) := by
  have space : skipBlanks (32 :: (Text.toBytes (prettyAt level value) ++ rest)) =
      Text.toBytes (prettyAt level value) ++ rest := by
    rw [skipBlanks, List.dropWhile_cons_of_pos rfl]
    exact readable.skipBlanks_text rest
  exact readable.reads space ended

section

variable {σ : Type} {step : σ → String → List UInt8 → Except Trouble (σ × List UInt8)}
  {state final : σ} {members : List (String × Json)}

/-- Members take the reader of an object from one state to another, if each is read from the state
that the ones before it have left. `print` makes the texts of their values. -/
inductive Takes (print : Json → String)
    (step : σ → String → List UInt8 → Except Trouble (σ × List UInt8)) :
    σ → List (String × Json) → σ → Prop
  | nil (state : σ) : Takes print step state [] state
  | cons {state next final : σ} {m : String × Json} {members : List (String × Json)}
      (reads : Readable (fun unread => step state m.1 (58 :: unread)) (print m.2) next)
      (others : Takes print step next members final) : Takes print step state (m :: members) final

/-- A text unfolds into members: behind its opening bracket they take any reader as far as they can,
up to the closing bracket. -/
def Unfolds (print : Json → String) (members : List (String × Json)) (text : String) : Prop :=
  ∃ bytes, Text.toBytes text = 123 :: bytes ∧
    ∀ {σ : Type} {step : σ → String → List UInt8 → Except Trouble (σ × List UInt8)}
      {state final : σ} (rest : List UInt8), Takes print step state members final →
      Read.members step ((bytes ++ rest).length + 1) true state (bytes ++ rest) =
        .ok (final, 125 :: rest)

theorem members_further {level outer : Nat}
    (takes : Takes (prettyAt level) step state members final) (fuel : Nat)
    (enough : members.length < fuel) (rest : List UInt8) :
    Read.members step fuel false state
        (furtherMembers level members ++ (Text.toBytes (newLine outer) ++ 125 :: rest)) =
      .ok (final, 125 :: rest) := by
  induction takes generalizing fuel with
  | nil state =>
    obtain ⟨fuel, rfl⟩ := Nat.exists_eq_succ_of_ne_zero (Nat.ne_zero_of_lt enough)
    refine members_end false fuel ?_
    rw [furtherMembers, List.flatMap_nil, List.nil_append, skipBlanks_newLine, skipBlanks_cons rfl]
  | @cons state next final m members reads _ ih =>
    obtain ⟨fuel, rfl⟩ := Nat.exists_eq_succ_of_ne_zero (Nat.ne_zero_of_lt enough)
    have split : furtherMembers level (m :: members) ++
        (Text.toBytes (newLine outer) ++ 125 :: rest) =
        44 :: (Text.toBytes (newLine level) ++ (Text.toBytes (stringText m.1) ++
          (valueBytes level m.2 ++ (furtherMembers level members ++
            (Text.toBytes (newLine outer) ++ 125 :: rest))))) := by
      simp [furtherMembers]
    rw [split, members_comma fuel (skipBlanks_key level m.1 _)
      (step_valueBytes reads (ended_furtherMembers level members outer _))]
    exact ih fuel (Nat.lt_of_succ_lt_succ enough)

/-- An object spread over lines unfolds into its members. -/
theorem unfolds_pretty (level : Nat) (members : List (String × Json)) :
    Unfolds (prettyAt (level + 1)) members (prettyAt level (.object members)) := by
  cases members with
  | nil =>
    refine ⟨[125], by rw [prettyAt]; decide, fun rest takes => ?_⟩
    cases takes
    exact members_end true _ (skipBlanks_cons rfl rest)
  | cons m members =>
    refine ⟨Text.toBytes (newLine (level + 1)) ++ (Text.toBytes (stringText m.1) ++
      (valueBytes (level + 1) m.2 ++ (furtherMembers (level + 1) members ++
        (Text.toBytes (newLine level) ++ [125])))), ?_, ?_⟩
    · have opening : Text.toBytes "\x7b" = [123] := by decide
      have closing : Text.toBytes "\x7d" = [125] := by decide
      simp [prettyAt, toBytes_prettyMembers, opening, closing]
    · intro σ step state final rest takes
      cases takes with
      | cons reads others =>
        have enough := length_le_furtherMembers (level + 1) members
        simp only [List.append_assoc, List.singleton_append]
        rw [members_first _ (skipBlanks_key _ _ _)
          (step_valueBytes reads (ended_furtherMembers _ _ _ _))]
        refine members_further others _ ?_ rest
        simp only [List.length_append, List.length_cons]
        omega

end

end WidgetBindings.Json.Read
