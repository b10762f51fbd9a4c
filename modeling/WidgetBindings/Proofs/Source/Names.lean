import Mathlib.Data.List.Forall2
import WidgetBindings.Proofs.Source.Layout

/-!
# Display names stay in their literals

Whatever the display names are, the source is the same around the string literals:

* `lex_quotedCall`: in a line with a display name there is one literal, and it spells that name;
* `alike_registration`, `alike_grouping`: the lines of two entries that differ in nothing but the
  name differ in nothing but what their literals spell;
* `display_names_contained`: the same for two stores and their whole sources.
-/

namespace WidgetBindings

namespace Source

open Declaration (IsIdentifier)
open Literal (lex)

/-! ## Lines -/

/-- A line that is shown as a comment. -/
def IsComment (line : List Char) : Prop := margin false <+: line

/-- Two lines that differ in nothing but what their literals spell, and that are both comments or
both not. -/
structure Alike (a b : List Char) : Prop where
  code : ∃ code texts texts', lex none a = some ⟨code, texts⟩ ∧ lex none b = some ⟨code, texts'⟩
  comment : IsComment a ↔ IsComment b

theorem noQuote_margin (enabled : Bool) : '"' ∉ margin enabled := by cases enabled <;> decide

theorem noQuote_arguments {words : List String} (h : ∀ word ∈ words, IsIdentifier word.toList) :
    '"' ∉ arguments words :=
  not_mem_arguments h (by decide) (by decide) (by decide) (by decide)

theorem isComment_margin {call : List Char} (h : call.head? ≠ some '/') (enabled : Bool) :
    IsComment (margin enabled ++ call) ↔ enabled = false := by
  cases enabled with
  | false => exact iff_of_true ⟨call, rfl⟩ rfl
  | true => exact iff_of_false (not_comment h) (by decide)

/-- In the line of a call with a display name there is one literal, and it spells that name. -/
theorem lex_quotedCall {function : String} {words : List String} (named : '"' ∉ function.toList)
    (h : ∀ word ∈ words, IsIdentifier word.toList) (enabled : Bool) (text : String) :
    lex none (margin enabled ++ quotedCall function text words) =
      some ⟨margin enabled ++ function.toList ++ "(\"\"".toList ++ arguments words,
        [text.toList]⟩ := by
  have before : '"' ∉ margin enabled ++ (function.toList ++ ['(']) := by
    simp only [List.mem_append, noQuote_margin, named, false_or]
    decide
  have whole := Literal.lex_literal before (noQuote_arguments h) text.toList
  simpa [quotedCall] using whole

theorem alike_quotedCall {function : String} {words : List String} (named : '"' ∉ function.toList)
    (code : function.toList.head? ≠ some '/') (h : ∀ word ∈ words, IsIdentifier word.toList)
    (enabled : Bool) (text text' : String) :
    Alike (margin enabled ++ quotedCall function text words)
      (margin enabled ++ quotedCall function text' words) where
  code := ⟨_, _, _, lex_quotedCall named h enabled text, lex_quotedCall named h enabled text'⟩
  comment := by
    rw [isComment_margin (head?_quotedCall code), isComment_margin (head?_quotedCall code)]

theorem lex_groupCall {entry : Entry} (h : IsIdentifier entry.identifier.toList) (enabled : Bool) :
    lex none (margin enabled ++ (groupCall entry).toList) =
      some ⟨margin enabled ++ (groupCall entry).toList, []⟩ := by
  refine Literal.lex_plain ?_
  have front : '"' ∉ "lv_group_add_obj(group".toList := by decide
  rw [toList_groupCall, List.mem_append, List.mem_append, not_or, not_or]
  exact ⟨noQuote_margin enabled, front, noQuote_arguments (by simpa using h)⟩

/-! ## Entries -/

/-- The second entry is the first with some other display name. -/
def SameButName (e f : Entry) : Prop := ∃ name, f = { e with displayName := name }

theorem forall₂_callLines {R : List Char → List Char → Prop} {enabled : Bool} (diagnostic : Bool)
    {a b : String} (h : R (margin enabled ++ a.toList) (margin enabled ++ b.toList)) :
    List.Forall₂ R (callLines enabled diagnostic a) (callLines enabled diagnostic b) := by
  rw [callLines, callLines]
  split
  · exact .cons h .nil
  · exact .nil

section
variable {e f : Entry} (h : IsIdentifier e.identifier.toList) (same : SameButName e f)
  (diagnostic : Bool)
include h same

theorem alike_registration :
    List.Forall₂ Alike (registration diagnostic e) (registration diagnostic f) := by
  obtain ⟨name, rfl⟩ := same
  have producer : Alike (margin e.produce ++ (producerCall e).toList)
      (margin e.produce ++ (producerCall { e with displayName := name }).toList) := by
    rw [toList_producerCall, toList_producerCall]
    exact alike_quotedCall (by decide) (by decide) (isIdentifier_producerWords h) ..
  have consumer : Alike (margin e.consume ++ (consumerCall e).toList)
      (margin e.consume ++ (consumerCall { e with displayName := name }).toList) := by
    rw [toList_consumerCall, toList_consumerCall]
    exact alike_quotedCall (by decide) (by decide) (isIdentifier_consumerWords h) ..
  exact List.rel_append (forall₂_callLines diagnostic producer)
    (forall₂_callLines diagnostic consumer)

theorem alike_grouping : List.Forall₂ Alike (grouping diagnostic e) (grouping diagnostic f) := by
  obtain ⟨name, rfl⟩ := same
  exact forall₂_callLines diagnostic ⟨⟨_, _, _, lex_groupCall h _, lex_groupCall h _⟩, Iff.rfl⟩

end

/-- Each line of an entry in the first body holds one literal, and it spells the display name. -/
theorem lex_registration {entry : Entry} (h : IsIdentifier entry.identifier.toList)
    (diagnostic : Bool) : ∀ line ∈ registration diagnostic entry,
      ∃ code, lex none line = some ⟨code, [entry.displayName.toList]⟩ := by
  refine List.forall_mem_append.2
    ⟨forall_mem_callLines ?_ diagnostic, forall_mem_callLines ?_ diagnostic⟩
  · rw [toList_producerCall]
    exact ⟨_, lex_quotedCall (by decide) (isIdentifier_producerWords h) _ _⟩
  · rw [toList_consumerCall]
    exact ⟨_, lex_quotedCall (by decide) (isIdentifier_consumerWords h) _ _⟩

/-! ## Stores -/

/-- The bodies of a store are made up of whole statements, and each display name stands in a
literal. -/
structure NamesInLiterals (store : Store) (diagnostic : Bool) : Prop where
  /-- No line goes on in the next. -/
  ends : ∀ line ∈ Text.lines (registrationBody store diagnostic).toList ++
    Text.lines (groupBody store diagnostic).toList, line.getLast? ≠ some '\\'
  /-- The first body is made up of the lines of the entries. -/
  body : Text.lines (registrationBody store diagnostic).toList =
    store.toList.flatMap fun e => Text.lines (registrationLines diagnostic e).toList
  /-- Each of these lines has one literal, which spells the display name of its entry. -/
  literal : ∀ e ∈ store.toList, ∀ line ∈ Text.lines (registrationLines diagnostic e).toList,
    ∃ code, lex none line = some ⟨code, [e.displayName.toList]⟩

theorem namesInLiterals {store : Store} (formed : ScannerFormed store) (diagnostic : Bool) :
    NamesInLiterals store diagnostic where
  ends := by
    rw [lines_registrationBody formed, lines_groupBody formed]
    intro line mem
    have statement : IsStatement line := (List.mem_append.1 mem).elim
      (isStatement_registrations formed diagnostic line)
      (isStatement_groupings formed diagnostic line)
    rw [statement.ends]
    decide
  body := by
    rw [lines_registrationBody formed]
    exact List.flatMap_congr fun e he => (lines_registrationLines (formed e he) diagnostic).symm
  literal := by
    intro e he
    rw [lines_registrationLines (formed e he)]
    exact lex_registration (formed e he) diagnostic

section
variable {s t : Store} (formed : ScannerFormed s)
  (same : List.Forall₂ SameButName s.toList t.toList)
include formed same

theorem forall₂_formed : List.Forall₂
    (fun e f => IsIdentifier e.identifier.toList ∧ SameButName e f) s.toList t.toList :=
  (List.forall₂_and_left _ _).2 ⟨formed, same⟩

theorem scannerFormed_of_same : ScannerFormed t := by
  have identifiers : List.Forall₂ (fun f _ => IsIdentifier f.identifier.toList ∧ True)
      t.toList s.toList := by
    refine ((forall₂_formed formed same).imp fun e f both => ?_).flip
    obtain ⟨named, name, rfl⟩ := both
    exact ⟨named, trivial⟩
  exact ((List.forall₂_and_left _ _).1 identifiers).1

theorem alike_bodies (diagnostic : Bool) :
    List.Forall₂ Alike (Text.lines (registrationBody s diagnostic).toList)
        (Text.lines (registrationBody t diagnostic).toList) ∧
      List.Forall₂ Alike (Text.lines (groupBody s diagnostic).toList)
        (Text.lines (groupBody t diagnostic).toList) := by
  have formed' := scannerFormed_of_same formed same
  have both := forall₂_formed formed same
  rw [lines_registrationBody formed, lines_registrationBody formed', lines_groupBody formed,
    lines_groupBody formed']
  exact ⟨List.rel_flatMap both fun _ _ h => alike_registration h.1 h.2 diagnostic,
    List.rel_flatMap both fun _ _ h => alike_grouping h.1 h.2 diagnostic⟩

end

/-- **A display name cannot get out of its literal.** Two stores that differ in nothing but display
names have sources with the same number of lines. Around the two bodies these are the same. The
lines of the bodies become the same when their literals are emptied, and the same of them are
comments. No line of a body ends in a backslash and so goes on in the next, and each line in which a
display name stands has one literal, which spells it. -/
theorem display_names_contained {s t : Store} (formed : ScannerFormed s)
    (same : List.Forall₂ SameButName s.toList t.toList) (options : Options) :
    let lines (store : Store) := Text.lines (text store options).toList
    let first (store : Store) := Text.lines (registrationBody store options.diagnostic).toList
    let second (store : Store) := Text.lines (groupBody store options.diagnostic).toList
    (lines s).length = (lines t).length ∧
    (∃ front middle back, ∀ store ∈ [s, t],
      lines store = front ++ first store ++ middle ++ second store ++ back) ∧
    List.Forall₂ Alike (first s) (first t) ∧
    List.Forall₂ Alike (second s) (second t) ∧
    ∀ store ∈ [s, t], NamesInLiterals store options.diagnostic := by
  intro lines first second
  have either : ∀ store ∈ [s, t], ScannerFormed store := by
    simpa using ⟨formed, scannerFormed_of_same formed same⟩
  have parts : ∀ store ∈ [s, t], lines store =
      opening options ++ first store ++ between ++ second store ++ [['\x7d']] := by
    intro store mem
    have h := either store mem
    simp only [lines, first, second, lines_text h, lines_registrationBody h, lines_groupBody h]
  obtain ⟨inFirst, inSecond⟩ := alike_bodies formed same options.diagnostic
  refine ⟨?_, ⟨_, _, _, parts⟩, inFirst, inSecond,
    fun store mem => namesInLiterals (either store mem) options.diagnostic⟩
  rw [parts s (by simp), parts t (by simp)]
  simp only [List.length_append, first, second, inFirst.length_eq, inSecond.length_eq]

def plainEntries : List Entry := hostileEntries.map fun e => { e with displayName := "plain" }

theorem display_names_contained_hostile :
    ∃ s t : Store, s.toList = hostileEntries ∧ t.toList = plainEntries ∧ ScannerFormed s ∧
      List.Forall₂ SameButName s.toList t.toList ∧ ∀ options : Options,
        (Text.lines (text s options).toList).length = (Text.lines (text t options).toList).length ∧
        NamesInLiterals s options.diagnostic := by
  obtain ⟨s, entries, formed⟩ := exists_hostile
  have plain : (Store.ofCalls (plainEntries.map .insert)).toList = plainEntries := by
    decide +kernel
  have same : List.Forall₂ SameButName s.toList
      (Store.ofCalls (plainEntries.map .insert)).toList := by
    rw [entries, plain, plainEntries, List.forall₂_map_right_iff, List.forall₂_same]
    exact fun e _ => ⟨"plain", rfl⟩
  refine ⟨s, _, entries, plain, formed, same, fun options => ?_⟩
  obtain ⟨count, _, _, _, names⟩ := display_names_contained formed same options
  exact ⟨count, names s (by simp)⟩

end Source

end WidgetBindings
