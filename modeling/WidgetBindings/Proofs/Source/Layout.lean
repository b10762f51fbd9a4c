import WidgetBindings.Proofs.Declaration.Grammar
import WidgetBindings.Proofs.Source.Literal
import WidgetBindings.Proofs.Store.Contents
import WidgetBindings.Proofs.Text.Lines

/-!
# The lines of the generated source

Each call takes one line, which ends in a semicolon, and the lines of all entries stand one below
the other. So the lines of a source are those of its two bodies, with lines around them that do not
depend on the store (`lines_text`). For this the identifiers have to be as the scanner finds them: a
line feed in an identifier would break its line in two.
-/

namespace WidgetBindings

open Declaration (IsIdentifier isIdentifier_of_identifier?)

theorem ControlType.isIdentifier_tag (type : ControlType) : IsIdentifier type.tag.toList := by
  cases type <;> exact isIdentifier_of_identifier? (by decide)

theorem EventCode.isIdentifier_tag (event : EventCode) : IsIdentifier event.tag.toList := by
  cases event <;> exact isIdentifier_of_identifier? (by decide)

namespace Source

/-! ## Calls -/

/-- Words as further arguments of a call, up to its end. -/
def arguments : List String → List Char
  | [] => ");".toList
  | word :: words => ", ".toList ++ (word.toList ++ arguments words)

/-- A call whose first argument is a string literal. -/
def quotedCall (function text : String) (words : List String) : List Char :=
  function.toList ++ '(' :: '"' :: (text.toList.flatMap literalChar ++ '"' :: arguments words)

/-- The words that a producer is registered with, after its name. -/
def producerWords (entry : Entry) : List String :=
  [entry.identifier, entry.controlType.tag, entry.event.tag]

def consumerWords (entry : Entry) : List String := [entry.identifier, entry.controlType.tag]

theorem toList_producerCall (entry : Entry) :
    (producerCall entry).toList =
      quotedCall "host.AddProducer" entry.displayName (producerWords entry) := by
  have opening : "host.AddProducer(\"".toList = "host.AddProducer".toList ++ ['(', '"'] := by decide
  have closing : "\", ".toList = '"' :: ", ".toList := by decide
  unfold producerCall literal
  simp only [quotedCall, producerWords, arguments, String.toList_append, toString,
    String.toList_ofList, opening, closing, List.append_assoc, List.cons_append, List.nil_append]

theorem toList_consumerCall (entry : Entry) :
    (consumerCall entry).toList =
      quotedCall "host.AddConsumer" entry.displayName (consumerWords entry) := by
  have opening : "host.AddConsumer(\"".toList = "host.AddConsumer".toList ++ ['(', '"'] := by decide
  have closing : "\", ".toList = '"' :: ", ".toList := by decide
  unfold consumerCall literal
  simp only [quotedCall, consumerWords, arguments, String.toList_append, toString,
    String.toList_ofList, opening, closing, List.append_assoc, List.cons_append, List.nil_append]

theorem toList_groupCall (entry : Entry) :
    (groupCall entry).toList = "lv_group_add_obj(group".toList ++ arguments [entry.identifier] := by
  have opening : "lv_group_add_obj(group, ".toList =
      "lv_group_add_obj(group".toList ++ ", ".toList := by
    decide
  unfold groupCall
  simp only [arguments, String.toList_append, toString, opening, List.append_assoc]

/-- A line that holds no line feed and ends in a semicolon. -/
structure IsStatement (line : List Char) : Prop where
  noFeed : '\n' ∉ line
  ends : line.getLast? = some ';'

theorem IsStatement.isLine {line : List Char} (h : IsStatement line) : Text.IsLine line :=
  ⟨h.noFeed, by rw [h.ends]; decide⟩

theorem IsStatement.after {line : List Char} (h : IsStatement line) (front : List Char)
    (noFeed : '\n' ∉ front) : IsStatement (front ++ line) where
  noFeed := by
    rw [List.mem_append, not_or]
    exact ⟨noFeed, h.noFeed⟩
  ends := by rw [List.getLast?_append, h.ends, Option.some_or]

theorem not_mem_arguments {words : List String} (h : ∀ word ∈ words, IsIdentifier word.toList)
    {c : Char} (starts : Declaration.startsIdentifier c = false) (inside : Text.isWord c = false)
    (separator : c ∉ ", ".toList) (ending : c ∉ ");".toList) : c ∉ arguments words := by
  induction words with
  | nil => exact ending
  | cons word words ih =>
    obtain ⟨first, others⟩ := List.forall_mem_cons.1 h
    rw [arguments, List.mem_append, List.mem_append, not_or, not_or]
    exact ⟨separator, first.not_mem starts inside, ih others⟩

theorem isStatement_arguments {words : List String}
    (h : ∀ word ∈ words, IsIdentifier word.toList) : IsStatement (arguments words) where
  noFeed := not_mem_arguments h (by decide) (by decide) (by decide) (by decide)
  ends := by
    clear h
    induction words with
    | nil => decide
    | cons word words ih => simp only [arguments, List.getLast?_append, ih, Option.some_or]

theorem isStatement_quotedCall {function text : String} {words : List String}
    (named : '\n' ∉ function.toList) (h : ∀ word ∈ words, IsIdentifier word.toList) :
    IsStatement (quotedCall function text words) := by
  have inside : '\n' ∉ text.toList.flatMap literalChar := by
    intro mem
    exact absurd (Literal.printable_literal mem).1 (by decide)
  have last := (isStatement_arguments h).after ['"'] (by decide)
  exact ((last.after _ inside).after ['(', '"'] (by decide)).after _ named

theorem isIdentifier_producerWords {entry : Entry} (h : IsIdentifier entry.identifier.toList) :
    ∀ word ∈ producerWords entry, IsIdentifier word.toList := by
  simp [producerWords, h, ControlType.isIdentifier_tag, EventCode.isIdentifier_tag]

theorem isIdentifier_consumerWords {entry : Entry} (h : IsIdentifier entry.identifier.toList) :
    ∀ word ∈ consumerWords entry, IsIdentifier word.toList := by
  simp [consumerWords, h, ControlType.isIdentifier_tag]

/-! ## Bodies -/

/-- What stands in front of a call in its line. -/
def margin (enabled : Bool) : List Char := if enabled then "    ".toList else "    // ".toList

theorem noFeed_margin (enabled : Bool) : '\n' ∉ margin enabled := by cases enabled <;> decide

/-- The lines of a call: one, unless the call is off and no placeholder is asked for. -/
def callLines (enabled diagnostic : Bool) (call : String) : List (List Char) :=
  if enabled || diagnostic then [margin enabled ++ call.toList] else []

theorem toList_callLine (enabled diagnostic : Bool) (call : String) :
    (callLine enabled diagnostic call).toList =
      Text.unlines (callLines enabled diagnostic call) := by
  cases enabled <;> cases diagnostic <;>
    simp [callLine, callLines, margin, String.toList_append]

/-- The lines of an entry in the first body. -/
def registration (diagnostic : Bool) (entry : Entry) : List (List Char) :=
  callLines entry.produce diagnostic (producerCall entry) ++
    callLines entry.consume diagnostic (consumerCall entry)

/-- The lines of an entry in the second body. -/
def grouping (diagnostic : Bool) (entry : Entry) : List (List Char) :=
  callLines entry.group diagnostic (groupCall entry)

theorem toList_join_unlines {entries : List Entry} {piece : Entry → String}
    {pieceLines : Entry → List (List Char)}
    (h : ∀ e, (piece e).toList = Text.unlines (pieceLines e)) :
    (String.join (entries.map piece)).toList = Text.unlines (entries.flatMap pieceLines) := by
  rw [String.toList_join]
  simp only [List.flatMap_map, h, Text.unlines, List.flatMap_assoc]

theorem toList_registrationLines (diagnostic : Bool) (entry : Entry) :
    (registrationLines diagnostic entry).toList =
      Text.unlines (registration diagnostic entry) := by
  rw [registrationLines, String.toList_append, toList_callLine, toList_callLine, registration,
    Text.unlines_append]

theorem toList_registrationBody (store : Store) (diagnostic : Bool) :
    (registrationBody store diagnostic).toList =
      Text.unlines (store.toList.flatMap (registration diagnostic)) :=
  toList_join_unlines (toList_registrationLines diagnostic)

theorem toList_groupBody (store : Store) (diagnostic : Bool) :
    (groupBody store diagnostic).toList =
      Text.unlines (store.toList.flatMap (grouping diagnostic)) :=
  toList_join_unlines fun _ => toList_callLine ..

/-- A call that does not begin like the mark of a comment is not taken for one. -/
theorem not_comment {call : List Char} (h : call.head? ≠ some '/') :
    ¬ margin false <+: margin true ++ call := by
  rintro ⟨rest, same⟩
  have mark : margin false = margin true ++ "// ".toList := by decide
  rw [mark, List.append_assoc, List.append_cancel_left_eq] at same
  rw [← same] at h
  exact h rfl

theorem head?_quotedCall {function text : String} {words : List String}
    (h : function.toList.head? ≠ some '/') : (quotedCall function text words).head? ≠ some '/' := by
  rw [quotedCall, List.head?_append]
  cases name : function.toList.head? with
  | none => simp
  | some c => simpa [name] using h

theorem forall_mem_callLines {P : List Char → Prop} {enabled : Bool} {call : String}
    (h : P (margin enabled ++ call.toList)) (diagnostic : Bool) :
    ∀ line ∈ callLines enabled diagnostic call, P line := by
  intro line mem
  rw [callLines] at mem
  split at mem
  · rw [List.mem_singleton] at mem
    exact mem ▸ h
  · cases mem

section
variable {entry : Entry} (h : IsIdentifier entry.identifier.toList) (diagnostic : Bool)
include h

theorem isStatement_registration : ∀ line ∈ registration diagnostic entry, IsStatement line := by
  have producer : IsStatement (producerCall entry).toList := by
    rw [toList_producerCall]
    exact isStatement_quotedCall (by decide) (isIdentifier_producerWords h)
  have consumer : IsStatement (consumerCall entry).toList := by
    rw [toList_consumerCall]
    exact isStatement_quotedCall (by decide) (isIdentifier_consumerWords h)
  exact List.forall_mem_append.2
    ⟨forall_mem_callLines (producer.after _ (noFeed_margin _)) diagnostic,
      forall_mem_callLines (consumer.after _ (noFeed_margin _)) diagnostic⟩

theorem isStatement_grouping : ∀ line ∈ grouping diagnostic entry, IsStatement line := by
  have group : IsStatement (groupCall entry).toList := by
    rw [toList_groupCall]
    exact (isStatement_arguments (by simpa using h)).after _ (by decide)
  exact forall_mem_callLines (group.after _ (noFeed_margin _)) diagnostic

end

/-- The lines of an entry in the first body are read as they were made. -/
theorem lines_registrationLines {entry : Entry} (h : IsIdentifier entry.identifier.toList)
    (diagnostic : Bool) :
    Text.lines (registrationLines diagnostic entry).toList = registration diagnostic entry := by
  rw [toList_registrationLines, Text.lines_unlines]
  exact fun line mem => (isStatement_registration h diagnostic line mem).isLine

/-- Every entry has an identifier as the scanner finds them. -/
def ScannerFormed (store : Store) : Prop := ∀ e ∈ store.toList, IsIdentifier e.identifier.toList

section
variable {store : Store} (formed : ScannerFormed store) (diagnostic : Bool)
include formed

theorem isStatement_registrations :
    ∀ line ∈ store.toList.flatMap (registration diagnostic), IsStatement line :=
  List.forall_mem_flatMap.2 fun e he => isStatement_registration (formed e he) diagnostic

theorem isStatement_groupings :
    ∀ line ∈ store.toList.flatMap (grouping diagnostic), IsStatement line :=
  List.forall_mem_flatMap.2 fun e he => isStatement_grouping (formed e he) diagnostic

/-- The lines of the first body are those of its entries. -/
theorem lines_registrationBody :
    Text.lines (registrationBody store diagnostic).toList =
      store.toList.flatMap (registration diagnostic) := by
  rw [toList_registrationBody, Text.lines_unlines]
  exact fun line mem => (isStatement_registrations formed diagnostic line mem).isLine

/-- The lines of the second body are those of its entries. -/
theorem lines_groupBody :
    Text.lines (groupBody store diagnostic).toList =
      store.toList.flatMap (grouping diagnostic) := by
  rw [toList_groupBody, Text.lines_unlines]
  exact fun line mem => (isStatement_groupings formed diagnostic line mem).isLine

end

/-! ## The file -/

/-- What stands in front of the first body, up to the line feed before its opening brace. -/
def heading (options : Options) : String :=
  (options.banner.elim "" Banner.line) ++
    includeLine "LvglHost.h" ++ includeLine options.includeFile ++ includeLine "LvglBinding.h" ++
    "\n" ++ "void LvglBindingInit(LvglHost& host)"

/-- The lines up to the opening brace of the first body. -/
def opening (options : Options) : List (List Char) :=
  Text.lines ((heading options).toList ++ ['\n']) ++ [['\x7b']]

/-- The lines between the two bodies. -/
def between : List (List Char) :=
  [['\x7d'], [], "void LvglGroupInit(lv_group_t* group)".toList, ['\x7b']]

theorem toList_text (store : Store) (options : Options) :
    (text store options).toList = (heading options).toList ++ '\n' :: Text.unlines
      (['\x7b'] :: (store.toList.flatMap (registration options.diagnostic) ++
        (between ++ (store.toList.flatMap (grouping options.diagnostic) ++ [['\x7d']])))) := by
  have opened : "\n\x7b\n".toList = ['\n', '\x7b', '\n'] := by decide
  have closed : "\x7d\n".toList = ['\x7d', '\n'] := by decide
  have blank : "\n".toList = ['\n'] := by decide
  simp only [text, functionText, heading, between, String.toList_append, toList_registrationBody,
    toList_groupBody, Text.unlines_append, Text.unlines_cons, Text.unlines_nil, opened, closed,
    blank, List.append_assoc, List.cons_append, List.nil_append]

/-- **The lines of a source.** Around the two bodies they are the same for every store. -/
theorem lines_text {store : Store} (formed : ScannerFormed store) (options : Options) :
    Text.lines (text store options).toList =
      opening options ++ store.toList.flatMap (registration options.diagnostic) ++ between ++
        store.toList.flatMap (grouping options.diagnostic) ++ [['\x7d']] := by
  have fixed : ∀ line ∈ ['\x7b'] :: ['\x7d'] :: between, Text.IsLine line := by decide
  have all : ∀ line ∈ ['\x7b'] :: (store.toList.flatMap (registration options.diagnostic) ++
      (between ++ (store.toList.flatMap (grouping options.diagnostic) ++ [['\x7d']]))),
      Text.IsLine line := by
    intro line mem
    simp only [List.mem_cons, List.mem_append, List.not_mem_nil, or_false] at mem
    obtain rfl | mem | mem | mem | rfl := mem
    · exact fixed _ (by simp)
    · exact (isStatement_registrations formed _ line mem).isLine
    · exact fixed _ (by simp [mem])
    · exact (isStatement_groupings formed _ line mem).isLine
    · exact fixed _ (by simp)
  rw [toList_text, Text.lines_append, Text.lines_unlines all, opening]
  simp only [List.append_assoc, List.cons_append, List.nil_append]

/-- A display name that imitates the end of a call, of a line and of a function, with controls in
front of digits. -/
def hostileName : String := "\\\", a, b, c);\n\x7d\n// \\\x007\x1b8\r"

/-- Entries with such a name, with one that looks like a line, and without a name. -/
def hostileEntries : List Entry := [
  .ofMapping "ui_a" hostileName .fallback,
  { Entry.ofMapping "_b1" "    // host.AddProducer(" .fallback with produce := true },
  { Entry.ofMapping "C" "" .fallback with consume := true, group := true }]

theorem exists_hostile : ∃ store : Store, store.toList = hostileEntries ∧ ScannerFormed store := by
  have entries : (Store.ofCalls (hostileEntries.map .insert)).toList = hostileEntries := by
    decide +kernel
  refine ⟨_, entries, fun e he => ?_⟩
  rw [entries] at he
  simp only [hostileEntries, List.mem_cons, List.not_mem_nil, or_false] at he
  obtain rfl | rfl | rfl := he <;> exact isIdentifier_of_identifier? (by decide)

end Source

end WidgetBindings
