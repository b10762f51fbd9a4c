import WidgetBindings.Proofs.Declaration.Grammar
import WidgetBindings.Proofs.Text.Lines
import WidgetBindings.Proofs.Text.Split

/-!
# Scanning line by line

What stands between two line feeds is scanned by itself, and how the lines end does not count.

* `declares_return`: a carriage return behind a line neither makes a declaration nor hides one, for
  a declaration ends in a word;
* `scan_eq`: so a header declares what the pieces between its line feeds declare, although lines are
  read with fewer carriage returns and without an empty last one;
* `scan_line_by_line`: from this follow the laws of scanning two texts one below the other.
-/

namespace WidgetBindings

namespace Text

/-- A character with a carriage return in front of it if it is a line feed. -/
def withReturn (c : Char) : List Char := if c = '\n' then ['\r', '\n'] else [c]

/-- The text with a carriage return in front of each line feed. -/
def withReturns (text : String) : String := String.ofList (text.toList.flatMap withReturn)

/-- The number of line feeds in a text. -/
def feeds (text : String) : Nat := text.toList.count '\n'

theorem flatMap_withReturn {cs : List Char} (free : '\n' ∉ cs) : cs.flatMap withReturn = cs := by
  induction cs with
  | nil => rfl
  | cons c cs ih =>
    obtain ⟨first, others⟩ := not_or.1 (mt List.mem_cons.2 free)
    rw [List.flatMap_cons, ih others, withReturn, if_neg (Ne.symm first), List.singleton_append]

end Text

namespace Declaration

open Text (feeds withReturns splitOn)

/-- The declaration as it is found `n` lines further down. -/
def later (n : Nat) (d : Declaration) : Declaration := { d with line := d.line + n }

/-! ## Carriage returns -/

theorem wordFree_return {after : List Char} : WordFree (after ++ ['\r']) ↔ WordFree after := by
  cases after with
  | nil =>
    have ends : Text.isWord '\r' = false := by decide
    simp [WordFree, ends]
  | cons c after => rfl

/-- Up to the end of the identifier a line does not depend on what comes after it, and it does not
end in a carriage return there. -/
theorem Parts.exists_front (wanted : List Char) {p : Parts} (ok : p.WellFormed) :
    ∃ front : List Char, front.getLast? ≠ some '\r' ∧
      ∀ after, { p with after }.line wanted = front ++ after := by
  obtain ⟨full, noReturn⟩ : p.name ≠ [] ∧ '\r' ∉ p.name := by
    refine ⟨?_, IsIdentifier.not_mem ok.name (by decide) (by decide)⟩
    obtain ⟨c, rest, named, _⟩ := ok.name
    simp [named]
  refine ⟨p.before ++ ("extern".toList ++ (p.gap ++ (wanted ++ (p.beforeStar ++
    '*' :: p.afterStar)))) ++ p.name, ?_, fun after => ?_⟩
  · rw [List.getLast?_append_of_ne_nil _ full]
    exact fun last => noReturn (List.mem_of_getLast? last)
  · change p.before ++ ("extern".toList ++ (p.gap ++ (wanted ++ (p.beforeStar ++
      '*' :: (p.afterStar ++ (p.name ++ after)))))) = _
    simp only [List.append_assoc, List.cons_append]

/-- A carriage return behind a line does not count. -/
theorem declares_return {wanted line before name : List Char} :
    Declares wanted (line ++ ['\r']) before name ↔ Declares wanted line before name := by
  constructor
  · rintro ⟨p, ok, whole, rfl, rfl⟩
    obtain ⟨front, noReturn, same⟩ := p.exists_front wanted ok
    rw [same p.after] at whole
    obtain empty | ⟨init, c, full⟩ := List.eq_nil_or_concat' p.after
    · rw [empty, List.append_nil] at whole
      rw [whole, List.getLast?_concat] at noReturn
      exact absurd rfl noReturn
    · have free := ok.after
      rw [full, ← List.append_assoc] at whole
      obtain ⟨rest, last⟩ := List.append_inj' whole rfl
      obtain rfl := List.singleton_inj.1 last
      rw [full, wordFree_return] at free
      exact ⟨{ p with after := init }, { ok with after := free }, (same init).trans rest, rfl, rfl⟩
  · rintro ⟨p, ok, rfl, rfl, rfl⟩
    obtain ⟨front, _, same⟩ := p.exists_front wanted ok
    refine ⟨{ p with after := p.after ++ ['\r'] }, { ok with after := wordFree_return.2 ok.after },
      ?_, rfl, rfl⟩
    rw [same, same p.after, List.append_assoc]

theorem onLine?_return (objectType : String) (line : List Char) :
    onLine? (sought objectType) (line ++ ['\r']) = onLine? (sought objectType) line := by
  have trimmed : Text.BlankFree (sought objectType) := Text.blankFree_trimChars _
  apply Option.ext
  intro name
  rw [onLine?_eq_some_iff trimmed, onLine?_eq_some_iff trimmed]
  simp only [DeclaresFirst, declares_return]

/-- So it does not count whether a carriage return has been taken off the end of a line. -/
theorem onLine?_endLine (objectType : String) (before : List Char) :
    onLine? (sought objectType) (Text.endLine before) =
      onLine? (sought objectType) before.reverse := by
  unfold Text.endLine
  split
  · rw [List.reverse_cons, onLine?_return]
  · rfl

/-! ## Pieces of a header -/

/-- The declarations that come of what lines declare, the first line having the given number. -/
def numbered (first : Nat) (names : List (Option (List Char))) : List Declaration :=
  (names.zipIdx first).filterMap fun p => p.1.map fun name => ⟨String.ofList name, p.2⟩

/-- What each piece between line feeds declares. -/
def declared (objectType : String) (cs : List Char) : List (Option (List Char)) :=
  (splitOn '\n' cs).map (onLine? (sought objectType))

theorem numbered_append (first : Nat) (names more : List (Option (List Char))) :
    numbered first (names ++ more) =
      numbered first names ++ numbered (first + names.length) more := by
  rw [numbered, List.zipIdx_append, List.filterMap_append]
  rfl

theorem numbered_some (first : Nat) (name : List Char) :
    numbered first [some name] = [⟨String.ofList name, first⟩] := rfl

theorem numbered_cons (first : Nat) (name : Option (List Char))
    (names : List (Option (List Char))) :
    numbered first (name :: names) = numbered first [name] ++ numbered (first + 1) names :=
  numbered_append first [name] names

theorem numbered_later (first n : Nat) (names : List (Option (List Char))) :
    numbered (first + n) names = (numbered first names).map (later n) := by
  induction names generalizing first with
  | nil => rfl
  | cons name names ih =>
    have here : numbered (first + n) [name] = (numbered first [name]).map (later n) := by
      cases name <;> rfl
    rw [numbered_cons, numbered_cons first, List.map_append, here, ← ih, Nat.add_right_comm]

theorem mem_numbered_iff {names : List (Option (List Char))} {d : Declaration} :
    d ∈ numbered 1 names ↔ ∃ i, names[i]? = some (some d.identifier.toList) ∧ d.line = i + 1 := by
  simp only [numbered, List.mem_filterMap, Option.map_eq_some_iff]
  constructor
  · rintro ⟨⟨_, number⟩, mem, name, rfl, rfl⟩
    obtain ⟨positive, there⟩ := List.mk_mem_zipIdx_iff_le_and_getElem?_sub.1 mem
    refine ⟨number - 1, by rw [there, String.toList_ofList], ?_⟩
    change number = _
    omega
  · rintro ⟨i, there, number⟩
    refine ⟨(some d.identifier.toList, d.line), ?_, _, rfl, by rw [String.ofList_toList]⟩
    rw [List.mk_mem_zipIdx_iff_le_and_getElem?_sub, number]
    exact ⟨Nat.succ_le_succ (Nat.zero_le i), there⟩

/-- A header declares what its pieces declare, each piece by itself. -/
theorem scan_eq (objectType text : String) :
    scan objectType text = numbered 1 (declared objectType text.toList) := by
  have pieces (cs : List Char) (first : Nat) :
      numbered first ((Text.lines cs).map (onLine? (sought objectType))) =
        numbered first (declared objectType cs) := by
    induction cs using Text.byParts '\n' generalizing first with
    | last part free =>
      rw [Text.lines_noFeed free, declared, Text.splitOn_of_not_mem free]
      split
      · rename_i empty
        subst empty
        rfl
      · rfl
    | next part rest free ih =>
      rw [Text.lines, Text.linesAfter_cons free, List.append_nil, List.map_cons, numbered_cons,
        onLine?_endLine, List.reverse_reverse, ← Text.lines, ih, declared, declared,
        Text.splitOn_append_cons, Text.splitOn_of_not_mem free, List.singleton_append,
        List.map_cons, ← numbered_cons]
  rw [← pieces, numbered, List.zipIdx_map, List.filterMap_map]
  rfl

theorem declared_noFeed {objectType : String} {cs : List Char} (free : '\n' ∉ cs) :
    declared objectType cs = [onLine? (sought objectType) cs] := by
  rw [declared, Text.splitOn_of_not_mem free, List.map_singleton]

theorem declared_append (objectType : String) (cs more : List Char) :
    declared objectType (cs ++ '\n' :: more) =
      declared objectType cs ++ declared objectType more := by
  rw [declared, Text.splitOn_append_cons, List.map_append, declared, declared]

theorem length_declared (objectType text : String) :
    (declared objectType text.toList).length = feeds text + 1 := by
  rw [declared, List.length_map, Text.length_splitOn, feeds]

/-! ## The laws -/

/-- Of two texts one below the other each is scanned by itself. -/
theorem scan_append (objectType a b : String) :
    scan objectType (a ++ "\n" ++ b) =
      scan objectType a ++ (scan objectType b).map (later (feeds a + 1)) := by
  have joined : (a ++ "\n" ++ b).toList = a.toList ++ '\n' :: b.toList := by simp
  rw [scan_eq, joined, declared_append, numbered_append, length_declared, numbered_later,
    ← scan_eq, ← scan_eq]

theorem scan_empty (objectType : String) : scan objectType "" = [] := rfl

theorem scan_return (objectType text : String) :
    scan objectType (text ++ "\r") = scan objectType text := by
  have behind : (text ++ "\r").toList = text.toList ++ ['\r'] := by simp
  have same (cs : List Char) : declared objectType (cs ++ ['\r']) = declared objectType cs := by
    induction cs using Text.byParts '\n' with
    | last part free =>
      have free' : '\n' ∉ part ++ ['\r'] := by simp [free]
      rw [declared_noFeed free', declared_noFeed free, onLine?_return]
    | next part rest free ih =>
      rw [List.append_assoc, List.cons_append, declared_append, ih, declared_append]
  rw [scan_eq, behind, same, ← scan_eq]

/-- Line ends behind a text do not count. -/
theorem scan_ends (objectType text : String) {ends : List Char}
    (only : ∀ c ∈ ends, c = '\n' ∨ c = '\r') :
    scan objectType (text ++ String.ofList ends) = scan objectType text := by
  induction ends generalizing text with
  | nil => rw [String.ofList_nil, String.append_empty]
  | cons c ends ih =>
    obtain ⟨first, others⟩ := List.forall_mem_cons.1 only
    have one : text ++ String.ofList (c :: ends) =
        text ++ String.singleton c ++ String.ofList ends := by
      rw [← String.toList_inj]
      simp
    rw [one, ih _ others]
    obtain rfl | rfl := first
    · have below := scan_append objectType text ""
      rwa [String.append_empty, scan_empty, List.map_nil, List.append_nil] at below
    · exact scan_return objectType text

/-- A carriage return in front of each line feed does not count. -/
theorem scan_withReturns (objectType text : String) :
    scan objectType (withReturns text) = scan objectType text := by
  have same (cs : List Char) :
      declared objectType (cs.flatMap Text.withReturn) = declared objectType cs := by
    induction cs using Text.byParts '\n' with
    | last part free => rw [Text.flatMap_withReturn free]
    | next part rest free ih =>
      have free' : '\n' ∉ part ++ ['\r'] := by simp [free]
      have parts : (part ++ '\n' :: rest).flatMap Text.withReturn =
          part ++ ['\r'] ++ '\n' :: rest.flatMap Text.withReturn := by
        rw [List.flatMap_append, Text.flatMap_withReturn free, List.append_assoc]
        rfl
      rw [parts, declared_append, ih, declared_append, declared_noFeed free', declared_noFeed free,
        onLine?_return]
  rw [scan_eq, withReturns, String.toList_ofList, same, ← scan_eq]

theorem scan_noFeed (objectType : String) {line : List Char} (free : '\n' ∉ line) :
    scan objectType (String.ofList line) = numbered 1 [onLine? (sought objectType) line] := by
  rw [scan_eq, String.toList_ofList, declared_noFeed free]

/-- What a header declares is declared by one piece of it alone. -/
theorem mem_scan_iff_piece {objectType text : String} {d : Declaration} :
    d ∈ scan objectType text ↔ ∃ i piece, (splitOn '\n' text.toList)[i]? = some piece ∧
      d.line = i + 1 ∧ scan objectType (String.ofList piece) = [⟨d.identifier, 1⟩] := by
  rw [scan_eq, mem_numbered_iff]
  simp only [declared, List.getElem?_map, Option.map_eq_some_iff]
  constructor
  · rintro ⟨i, ⟨piece, there, found⟩, number⟩
    refine ⟨i, piece, there, number, ?_⟩
    rw [scan_noFeed objectType (Text.notMem_of_mem_splitOn (List.mem_of_getElem? there)), found,
      numbered_some, String.ofList_toList]
  · rintro ⟨i, piece, there, number, alone⟩
    refine ⟨i, ⟨piece, there, ?_⟩, number⟩
    rw [scan_noFeed objectType (Text.notMem_of_mem_splitOn (List.mem_of_getElem? there))] at alone
    have one : (⟨d.identifier, 1⟩ : Declaration) ∈
        numbered 1 [onLine? (sought objectType) piece] := by
      rw [alone]
      exact List.mem_singleton_self _
    obtain ⟨j, found, first⟩ := mem_numbered_iff.1 one
    obtain rfl : 0 = j := Nat.succ.inj first
    exact Option.some.inj found

theorem line_bounds {objectType text : String} {d : Declaration} (h : d ∈ scan objectType text) :
    0 < d.line ∧ d.line ≤ feeds text + 1 := by
  rw [scan_eq, mem_numbered_iff] at h
  obtain ⟨i, there, number⟩ := h
  obtain ⟨inside, _⟩ := List.getElem?_eq_some_iff.1 there
  rw [length_declared] at inside
  omega

/-- The declaration after a line has been put in below line `n`. -/
def pushed (n : Nat) (d : Declaration) : Declaration := if n < d.line then d.later 1 else d

section
variable {objectType line : String} (free : '\n' ∉ line.toList)
  (nothing : scan objectType line = [])
include free nothing

theorem scan_below_line (b : String) :
    scan objectType (line ++ "\n" ++ b) = (scan objectType b).map (later 1) := by
  have none : feeds line = 0 := List.count_eq_zero.2 free
  rw [scan_append, nothing, none, List.nil_append]

/-- A line without a declaration between two others pushes what is below it, and changes nothing
else. -/
theorem scan_around_line (a b : String) :
    scan objectType (a ++ "\n" ++ line ++ "\n" ++ b) =
      (scan objectType (a ++ "\n" ++ b)).map (pushed (feeds a + 1)) := by
  have above : (scan objectType a).map (pushed (feeds a + 1)) = scan objectType a := by
    have stay : ∀ d ∈ scan objectType a, pushed (feeds a + 1) d = d := by
      intro d hd
      exact if_neg (Nat.not_lt.2 (line_bounds hd).2)
    rw [List.map_congr_left stay, List.map_id']
  have below : ((scan objectType b).map (later (feeds a + 1))).map (pushed (feeds a + 1)) =
      ((scan objectType b).map (later 1)).map (later (feeds a + 1)) := by
    rw [List.map_map, List.map_map]
    apply List.map_congr_left
    intro d hd
    have first := (line_bounds hd).1
    have down : feeds a + 1 < (d.later (feeds a + 1)).line := by
      change _ < d.line + _
      omega
    rw [Function.comp_apply, Function.comp_apply, pushed, if_pos down, later, later, later, later]
    simp only [Nat.add_right_comm]
  have whole : a ++ "\n" ++ line ++ "\n" ++ b = a ++ "\n" ++ (line ++ "\n" ++ b) := by
    simp only [String.append_assoc]
  rw [whole, scan_append, scan_below_line free nothing, scan_append, List.map_append, above, below]

end

/-- **A header is scanned line by line, however its lines end.** Of two texts one below the other
each is scanned by itself, and the second is found further down by the lines of the first. A
carriage return in front of each line feed changes nothing, nor do line feeds and carriage returns
at the end of the text. A line without a declaration, wherever it is put in, only pushes down what
is below it. And each declaration is one that a single piece between line feeds has by itself, so
none is ever found over two lines. -/
theorem scan_line_by_line (objectType : String) :
    (∀ a b : String, scan objectType (a ++ "\n" ++ b) =
      scan objectType a ++ (scan objectType b).map (later (feeds a + 1))) ∧
    (∀ text, scan objectType (withReturns text) = scan objectType text) ∧
    (∀ text ends : String, (∀ c ∈ ends.toList, c = '\n' ∨ c = '\r') →
      scan objectType (text ++ ends) = scan objectType text) ∧
    (∀ line : String, '\n' ∉ line.toList → scan objectType line = [] →
      (∀ b, scan objectType (line ++ "\n" ++ b) = (scan objectType b).map (later 1)) ∧
      (∀ a b, scan objectType (a ++ "\n" ++ line ++ "\n" ++ b) =
        (scan objectType (a ++ "\n" ++ b)).map (pushed (feeds a + 1))) ∧
      ∀ a, scan objectType (a ++ "\n" ++ line) = scan objectType a) ∧
    ∀ text d, d ∈ scan objectType text ↔ ∃ i piece,
      (splitOn '\n' text.toList)[i]? = some piece ∧ d.line = i + 1 ∧
        scan objectType (String.ofList piece) = [⟨d.identifier, 1⟩] := by
  refine ⟨scan_append objectType, scan_withReturns objectType, fun text ends only => ?_,
    fun line free nothing => ⟨scan_below_line free nothing, scan_around_line free nothing,
      fun a => ?_⟩, fun text d => mem_scan_iff_piece⟩
  · have whole := scan_ends objectType text only
    rwa [String.ofList_toList] at whole
  · rw [scan_append, nothing, List.map_nil, List.append_nil]

/-- In a header with both kinds of line ends, one of its declarations over two lines, and a line put
in between. -/
theorem scan_line_by_line_mixed :
    let above := "extern lv_obj_t *a;\r\nextern lv_obj_t *\r"
    let below := "b;\nextern lv_obj_t* c"
    scan "lv_obj_t" above = [⟨"a", 1⟩] ∧ scan "lv_obj_t" "// extern" = [] ∧
    scan "lv_obj_t" (above ++ "\n" ++ "// extern" ++ "\n" ++ below) = [⟨"a", 1⟩, ⟨"c", 5⟩] ∧
    scan "lv_obj_t" (below ++ "\r\n\r") = [⟨"c", 2⟩] := by
  intro above below
  have first : scan "lv_obj_t" above = [⟨"a", 1⟩] := by decide +kernel
  have second : scan "lv_obj_t" below = [⟨"c", 2⟩] := by decide +kernel
  have comment : scan "lv_obj_t" "// extern" = [] := by decide +kernel
  have only : ∀ c ∈ "\r\n\r".toList, c = '\n' ∨ c = '\r' := by simp
  obtain ⟨each, _, ends, inserted, _⟩ := scan_line_by_line "lv_obj_t"
  refine ⟨first, comment, ?_, (ends below "\r\n\r" only).trans second⟩
  rw [(inserted "// extern" (by decide) comment).2.1, each, first, second]
  decide +kernel

end Declaration

end WidgetBindings
