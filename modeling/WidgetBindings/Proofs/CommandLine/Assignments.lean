import WidgetBindings.Proofs.CommandLine.Surroundings
import WidgetBindings.Proofs.Session.Failure

/-!
# Assignments on the command line

An argument of `edit` names a field before its first equals sign and has a value after it. White
space around the name does not count, while that in the value does.

* `Asks`, `Flawed`: an argument asks for one edit, or it is flawed, whatever the entry is;
* `assignAll_flawed`, `assignAll_made`: all assignments are made in order, or it all fails.
-/

namespace WidgetBindings.CommandLine

open Program

/-! ## Splitting -/

variable {front value text : String}

/-- A text has no equals sign, or there is a first one. -/
theorem noSign_or_first (text : String) : '=' ∉ text.toList ∨
    ∃ front value, text = front ++ "=" ++ value ∧ '=' ∉ front.toList := by
  by_cases sign : '=' ∈ text.toList
  · obtain ⟨front, value, cut, first⟩ := List.eq_append_cons_of_mem sign
    refine .inr ⟨String.ofList front, String.ofList value, String.toList_inj.1 ?_, by simpa⟩
    simp [cut]
  · exact .inl sign

theorem splitAssignment?_of_first (first : '=' ∉ front.toList) (value : String) :
    splitAssignment? (front ++ "=" ++ value) = some (Text.trim front, value) := by
  have before : ∀ c ∈ front.toList, decide (c ≠ '=') = true := by
    intro c mem
    rw [decide_eq_true_eq]
    rintro rfl
    exact first mem
  have cut : (front ++ "=" ++ value).toList = front.toList ++ '=' :: value.toList := by simp
  rw [splitAssignment?, cut, List.dropWhile_append_of_pos before,
    List.takeWhile_append_of_pos before]
  simp

theorem splitAssignment?_of_noSign (noSign : '=' ∉ text.toList) : splitAssignment? text = none := by
  have rest : text.toList.dropWhile (· ≠ '=') = [] := by
    rw [List.dropWhile_eq_nil_iff]
    intro c mem
    rw [decide_eq_true_eq]
    rintro rfl
    exact noSign mem
  rw [splitAssignment?, rest]

/-! ## What an argument asks for -/

/-- An argument asks for an edit of the field that is named before its first equals sign, to the
value after that. -/
inductive Asks : String → Edit → Prop
  | edit {front value : String} {field : Field} {edit : Edit} (first : '=' ∉ front.toList)
      (named : Text.trim front ∈ field.names) (parsed : Edit.parse field value = .ok edit) :
      Asks (front ++ "=" ++ value) edit

/-- What can be wrong with an argument, whatever the entry is. -/
inductive Flawed : String → Prop
  | noSign {text : String} (noSign : '=' ∉ text.toList) : Flawed text
  | unknownField {front value : String} (first : '=' ∉ front.toList)
      (unnamed : ∀ field : Field, Text.trim front ∉ field.names)
      (free : Text.trim front ∉ Field.fixedNames) : Flawed (front ++ "=" ++ value)
  | immutableField {front value : String} (first : '=' ∉ front.toList)
      (fixed : Text.trim front ∈ Field.fixedNames) : Flawed (front ++ "=" ++ value)
  | value {front value : String} {field : Field} {refusal : Refusal} (first : '=' ∉ front.toList)
      (named : Text.trim front ∈ field.names) (unsuited : Unsuited value field refusal) :
      Flawed (front ++ "=" ++ value)

theorem Asks.split {edit : Edit} (h : Asks text edit) :
    ∃ name value, splitAssignment? text = some (name, value) ∧
      Session.parseEdit name value = .ok edit := by
  obtain ⟨first, named, parsed⟩ := h
  refine ⟨_, _, splitAssignment?_of_first first _, ?_⟩
  rw [Session.parseEdit, Field.ofName_eq_ok_iff_names.2 named]
  exact parsed

theorem parseEdit_of_unnamed {name : String} (unnamed : ∀ field : Field, name ∉ field.names)
    (value : String) : ∃ refusal, Session.parseEdit name value = .error refusal := by
  rw [Session.parseEdit]
  cases named : Field.ofName name with
  | ok field => exact absurd (Field.ofName_eq_ok_iff_names.1 named) (unnamed field)
  | error refusal => exact ⟨refusal, rfl⟩

theorem Flawed.split (h : Flawed text) : splitAssignment? text = none ∨
    ∃ name value refusal, splitAssignment? text = some (name, value) ∧
      Session.parseEdit name value = .error refusal := by
  cases h with
  | noSign noSign => exact .inl (splitAssignment?_of_noSign noSign)
  | @unknownField _ value first unnamed free =>
    obtain ⟨refusal, refused⟩ := parseEdit_of_unnamed unnamed value
    exact .inr ⟨_, _, refusal, splitAssignment?_of_first first _, refused⟩
  | @immutableField _ value first fixed =>
    obtain ⟨refusal, refused⟩ := parseEdit_of_unnamed (Field.not_mem_names_of_fixed fixed) value
    exact .inr ⟨_, _, refusal, splitAssignment?_of_first first _, refused⟩
  | @value _ _ _ refusal first named unsuited =>
    refine .inr ⟨_, _, refusal, splitAssignment?_of_first first _, ?_⟩
    rw [Session.parseEdit, Field.ofName_eq_ok_iff_names.2 named]
    exact Edit.parse_eq_error_iff.2 unsuited

theorem asks_or_flawed (text : String) : (∃ edit, Asks text edit) ∨ Flawed text := by
  obtain noSign | ⟨front, value, rfl, first⟩ := noSign_or_first text
  · exact .inr (.noSign noSign)
  · cases named : Field.ofName (Text.trim front) with
    | error refusal =>
      have unnamed := (Field.ofName_eq_error_iff.1 named).1
      by_cases fixed : Text.trim front ∈ Field.fixedNames
      · exact .inr (.immutableField first fixed)
      · exact .inr (.unknownField first unnamed fixed)
    | ok field =>
      have named := Field.ofName_eq_ok_iff_names.1 named
      cases parsed : Edit.parse field value with
      | error refusal => exact .inr (.value first named (Edit.parse_eq_error_iff.1 parsed))
      | ok edit => exact .inl ⟨edit, .edit first named parsed⟩

theorem Asks.not_flawed {edit : Edit} (h : Asks text edit) : ¬ Flawed text := by
  intro flawed
  obtain ⟨name, value, split, parsed⟩ := h.split
  obtain none | ⟨name', value', refusal, split', refused⟩ := flawed.split
  · cases split.symm.trans none
  · cases split.symm.trans split'
    cases parsed.symm.trans refused

/-! ## Making assignments -/

variable {identifier : String} {session : Session}

theorem assignAll_of_flawed (flawed : Flawed text) (identifier : String) (session : Session)
    (rest : List String) :
    ∃ problem, assignAll identifier session (text :: rest) = pure (.error problem) := by
  rw [assignAll]
  obtain none | ⟨name, value, refusal, split, refused⟩ := flawed.split
  · exact ⟨_, by rw [none]⟩
  · simp only [split, Session.edit, refused]
    exact ⟨_, LawfulMonad.pure_bind ..⟩

theorem assignAll_of_absent {edit : Edit} (asks : Asks text edit)
    (absent : identifier ∉ session.store.identifiers) (rest : List String) :
    ∃ problem, assignAll identifier session (text :: rest) = pure (.error problem) := by
  obtain ⟨name, value, split, parsed⟩ := asks.split
  rw [assignAll]
  simp only [split, Session.edit, parsed, Session.apply_of_absent edit absent]
  exact ⟨_, LawfulMonad.pure_bind ..⟩

theorem assignAll_of_asks {edit : Edit} {store : Store} (asks : Asks text edit)
    (made : session.store.edit identifier edit = .ok store) (rest : List String) :
    assignAll identifier session (text :: rest) =
      report (.fieldUpdated identifier edit.field) >>= fun _ =>
        assignAll identifier { session with store } rest := by
  obtain ⟨name, value, split, parsed⟩ := asks.split
  have edited : session.edited identifier edit = .ok { session with store } := by
    rw [Session.edited, made]
    rfl
  rw [assignAll]
  simp only [split, Session.edit, parsed, Session.apply, edited, LawfulMonad.bind_assoc,
    LawfulMonad.pure_bind]

variable (date : Option Date) (disk : Disk)

/-- A flawed argument among the assignments, or an entry that is not there, makes it all fail. -/
theorem assignAll_flawed {texts : List String}
    (h : (∃ text ∈ texts, Flawed text) ∨ texts ≠ [] ∧ identifier ∉ session.store.identifiers) :
    ∃ problem, (assignAll identifier session texts).runOn date disk = (.error problem, disk) := by
  have ended {p : Program (Except Problem Session)}
      (failed : ∃ problem, p = pure (.error problem)) :
      ∃ problem, p.runOn date disk = (.error problem, disk) := by
    obtain ⟨problem, rfl⟩ := failed
    exact ⟨problem, rfl⟩
  induction texts generalizing session with
  | nil => simp at h
  | cons text rest ih =>
    obtain ⟨edit, asks⟩ | flawed := asks_or_flawed text
    · cases made : session.store.edit identifier edit with
      | error refusal =>
        exact ended (assignAll_of_absent asks (Store.edit_eq_error_iff.1 made).1 rest)
      | ok store =>
        obtain ⟨wrong, mem, flawed⟩ | ⟨_, absent⟩ := h
        · obtain rfl | mem := List.mem_cons.1 mem
          · exact ended (assignAll_of_flawed flawed identifier session rest)
          · obtain ⟨problem, failed⟩ := @ih { session with store } (.inl ⟨wrong, mem, flawed⟩)
            rw [assignAll_of_asks asks made, runOn_bind]
            exact ⟨problem, failed⟩
        · rw [Store.edit_eq_error_iff.2 ⟨absent, rfl⟩] at made
          cases made
    · exact ended (assignAll_of_flawed flawed identifier session rest)

/-- Assignments without a flaw to an entry that is there are made, the first one first. -/
theorem assignAll_made {texts : List String} (sound : ∀ text ∈ texts, ¬ Flawed text)
    (present : identifier ∈ session.store.identifiers) :
    ∃ edits store, List.Forall₂ Asks texts edits ∧
      edits.foldlM (fun store edit => store.edit identifier edit) session.store = .ok store ∧
      (assignAll identifier session texts).runOn date disk =
        (.ok { session with store }, disk) := by
  induction texts generalizing session with
  | nil => exact ⟨[], session.store, .nil, rfl, rfl⟩
  | cons text rest ih =>
    obtain ⟨sound_text, sound_rest⟩ := List.forall_mem_cons.1 sound
    obtain ⟨edit, asks⟩ := (asks_or_flawed text).resolve_right sound_text
    cases made : session.store.edit identifier edit with
    | error refusal => exact absurd present (Store.edit_eq_error_iff.1 made).1
    | ok store =>
      obtain ⟨edits, last, asked, folded, run⟩ := @ih { session with store } sound_rest
        (by rwa [Store.identifiers_edit made])
      refine ⟨edit :: edits, last, .cons asks asked, ?_, ?_⟩
      · rw [List.foldlM_cons, made]
        exact folded
      · rw [assignAll_of_asks asks made, runOn_bind]
        exact run

end WidgetBindings.CommandLine
