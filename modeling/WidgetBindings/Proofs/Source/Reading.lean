import WidgetBindings.Proofs.Document.Key
import WidgetBindings.Proofs.Source.Layout

/-!
# Reading a source back

A source with placeholders shows every call of every entry, so the entries can be read off its text:

* `fromLines?_calls`: off the three lines of an entry, the entry;
* `bodies_append`: the two bodies are found from the end of the file, so that what an include file
  or a banner may say in front of them does not matter;
* `read?_text`: off the text of a store, all its entries;
* `diagnostic_text_readable`: no two stores have the same text with placeholders, and a banner only
  puts a line in front of it.
-/

namespace WidgetBindings

namespace Source

open Declaration (IsIdentifier WordFree)

/-! ## Calls -/

/-- The next of the further arguments of a call, and what comes after it. -/
def argument? (cs : List Char) : Option (String × List Char) := do
  let cs ← Text.after? ", ".toList cs
  let name ← Declaration.identifier? cs
  some (String.ofList name, cs.drop name.length)

/-- A call that stands in a line, and whether it is switched on. -/
def callIn? (line : List Char) : Option (Bool × List Char) :=
  match Text.after? (margin false) line with
  | some call => some (false, call)
  | none => (Text.after? (margin true) line).map fun call => (true, call)

/-- The entry that a producer is registered for, with every flag off. -/
def producer? (call : List Char) : Option Entry := do
  let cs ← Text.after? "host.AddProducer(\"".toList call
  let (name, cs) ← Literal.read .plain cs
  let (identifier, cs) ← argument? cs
  let (type, cs) ← argument? cs
  let (event, _) ← argument? cs
  let controlType ← ControlType.ofTag? type
  let event ← EventCode.ofTag? event
  some (Entry.ofMapping identifier (String.ofList name) ⟨controlType, event⟩)

/-- The entry whose calls stand in three lines. All but the flags is read off the first call. -/
def fromLines? (producer consumer group : List Char) : Option Entry := do
  let (produce, call) ← callIn? producer
  let (consume, _) ← callIn? consumer
  let (group, _) ← callIn? group
  let entry ← producer? call
  some { entry with produce, consume, group }

theorem wordFree_arguments (words : List String) : WordFree (arguments words) := by
  intro c hc
  cases words <;> cases hc <;> decide

theorem argument?_arguments {word : String} (h : IsIdentifier word.toList) (words : List String) :
    argument? (arguments (word :: words)) = some (word, arguments words) := by
  have comma : Text.after? ", ".toList (arguments (word :: words)) =
      some (word.toList ++ arguments words) := Text.after?_eq_some_iff.2 rfl
  have named : Declaration.identifier? (word.toList ++ arguments words) = some word.toList :=
    Declaration.identifier?_eq_some_iff.2 ⟨h, _, rfl, wordFree_arguments words⟩
  simp only [argument?, comma, named, Option.bind_eq_bind, Option.bind_some, List.drop_left,
    String.ofList_toList]

/-- A call does not begin like the mark of a comment, so its line shows whether it is on. -/
theorem callIn?_margin {call : List Char} (h : call.head? ≠ some '/') (enabled : Bool) :
    callIn? (margin enabled ++ call) = some (enabled, call) := by
  cases enabled with
  | false =>
    have marked : Text.after? (margin false) (margin false ++ call) = some call :=
      Text.after?_eq_some_iff.2 rfl
    rw [callIn?, marked]
  | true =>
    have unmarked : Text.after? (margin false) (margin true ++ call) = none := by
      rw [Option.eq_none_iff_forall_ne_some]
      intro rest found
      exact not_comment h ⟨rest, (Text.after?_eq_some_iff.1 found).symm⟩
    have plain : Text.after? (margin true) (margin true ++ call) = some call :=
      Text.after?_eq_some_iff.2 rfl
    rw [callIn?, unmarked, plain]
    rfl

theorem producer?_call {entry : Entry} (h : IsIdentifier entry.identifier.toList) :
    producer? (producerCall entry).toList =
      some (.ofMapping entry.identifier entry.displayName ⟨entry.controlType, entry.event⟩) := by
  have front : Text.after? "host.AddProducer(\"".toList (producerCall entry).toList =
      some (entry.displayName.toList.flatMap literalChar ++
        '"' :: arguments (producerWords entry)) := by
    rw [Text.after?_eq_some_iff, toList_producerCall]
    rfl
  rw [producer?, front, Option.bind_eq_bind, Option.bind_some, Literal.read_literal]
  simp only [Option.bind_eq_bind, Option.bind_some, producerWords, argument?_arguments h,
    argument?_arguments entry.controlType.isIdentifier_tag,
    argument?_arguments entry.event.isIdentifier_tag, ControlType.ofTag?_tag, EventCode.ofTag?_tag,
    String.ofList_toList]

/-- An entry is read off its lines. -/
theorem fromLines?_calls {entry : Entry} (h : IsIdentifier entry.identifier.toList) :
    fromLines? (margin entry.produce ++ (producerCall entry).toList)
      (margin entry.consume ++ (consumerCall entry).toList)
      (margin entry.group ++ (groupCall entry).toList) = some entry := by
  have producer : (producerCall entry).toList.head? ≠ some '/' :=
    toList_producerCall entry ▸ head?_quotedCall (by decide)
  have consumer : (consumerCall entry).toList.head? ≠ some '/' :=
    toList_consumerCall entry ▸ head?_quotedCall (by decide)
  have group : (groupCall entry).toList.head? ≠ some '/' := by simp [toList_groupCall]
  simp only [fromLines?, callIn?_margin producer, callIn?_margin consumer, callIn?_margin group,
    producer?_call h, Option.bind_eq_bind, Option.bind_some]
  rfl

/-! ## Bodies -/

/-- The entries whose calls stand in the two bodies. -/
def entries? : (registration group : List (List Char)) → Option (List Entry)
  | [], [] => some []
  | producer :: consumer :: registration, line :: group => do
    let entry ← fromLines? producer consumer line
    let entries ← entries? registration group
    some (entry :: entries)
  | _, _ => none

/-- With placeholders each entry has two lines in the first body and one in the second. -/
theorem entries?_lines {entries : List Entry}
    (h : ∀ e ∈ entries, IsIdentifier e.identifier.toList) :
    entries? (entries.flatMap (registration true)) (entries.flatMap (grouping true)) =
      some entries := by
  induction entries with
  | nil => rfl
  | cons entry entries ih =>
    obtain ⟨first, others⟩ := List.forall_mem_cons.1 h
    simp only [List.flatMap_cons, registration, grouping, callLines, Bool.or_true, if_true,
      List.cons_append, List.nil_append, entries?, fromLines?_calls first, ih others,
      Option.bind_eq_bind, Option.bind_some]

/-- Whether a line is one of a body. -/
def isIndented (line : List Char) : Bool := (Text.after? (margin true) line).isSome

/-- The lines of the two bodies, found from the end of a file. -/
def bodies (lines : List (List Char)) : List (List Char) × List (List Char) :=
  let back := lines.reverse.drop 1
  let before := (back.dropWhile isIndented).drop between.length
  ((before.takeWhile isIndented).reverse, (back.takeWhile isIndented).reverse)

theorem isIndented_callLines {enabled diagnostic : Bool} {call : String} :
    ∀ line ∈ callLines enabled diagnostic call, isIndented line = true := by
  refine forall_mem_callLines ?_ diagnostic
  cases enabled <;> rfl

theorem takeWhile_isIndented {body : List (List Char)}
    (h : ∀ line ∈ body, isIndented line = true) (before : List (List Char)) :
    (body.reverse ++ ['\x7b'] :: before).takeWhile isIndented = body.reverse ∧
      (body.reverse ++ ['\x7b'] :: before).dropWhile isIndented = ['\x7b'] :: before := by
  have brace : isIndented ['\x7b'] = false := by decide
  have indented : ∀ line ∈ body.reverse, isIndented line = true := by simpa using h
  rw [List.takeWhile_append_of_pos indented, List.dropWhile_append_of_pos indented]
  simp [brace]

/-- From the end of the file each body goes on as long as the lines are indented, and there is the
opening brace in front of it. -/
theorem bodies_append {registration group : List (List Char)}
    (hr : ∀ line ∈ registration, isIndented line = true)
    (hg : ∀ line ∈ group, isIndented line = true) (front : List (List Char)) :
    bodies (front ++ [['\x7b']] ++ registration ++ between ++ group ++ [['\x7d']]) =
      (registration, group) := by
  have backwards : (front ++ [['\x7b']] ++ registration ++ between ++ group ++
      [['\x7d']]).reverse.drop 1 = group.reverse ++ ['\x7b'] :: (between.reverse.drop 1 ++
        (registration.reverse ++ ['\x7b'] :: front.reverse)) := by
    simp [between]
  obtain ⟨lastTaken, lastDropped⟩ := takeWhile_isIndented hg
    (between.reverse.drop 1 ++ (registration.reverse ++ ['\x7b'] :: front.reverse))
  obtain ⟨firstTaken, _⟩ := takeWhile_isIndented hr front.reverse
  have passed : (['\x7b'] :: (between.reverse.drop 1 ++
      (registration.reverse ++ ['\x7b'] :: front.reverse))).drop between.length =
        registration.reverse ++ ['\x7b'] :: front.reverse := rfl
  simp only [bodies, backwards, lastTaken, lastDropped, passed, firstTaken, List.reverse_reverse]

/-! ## The file -/

/-- The entries of the store that a source with placeholders was made of. -/
def read? (text : String) : Option (List Entry) :=
  let (registration, group) := bodies (Text.lines text.toList)
  entries? registration group

/-- All entries are read off the text of their store. -/
theorem read?_text {store : Store} (formed : ScannerFormed store) {options : Options}
    (diagnostic : options.diagnostic = true) : read? (text store options) = some store.toList := by
  have registrations : ∀ line ∈ store.toList.flatMap (registration true), isIndented line = true :=
    List.forall_mem_flatMap.2 fun _ _ =>
      List.forall_mem_append.2 ⟨isIndented_callLines, isIndented_callLines⟩
  have groupings : ∀ line ∈ store.toList.flatMap (grouping true), isIndented line = true :=
    List.forall_mem_flatMap.2 fun _ _ => isIndented_callLines
  have found := bodies_append registrations groupings
    (Text.lines ((heading options).toList ++ ['\n']))
  rw [read?, lines_text formed, diagnostic, opening, found]
  exact entries?_lines formed

/-! ## Banners -/

theorem noFeed_padded (width n : Nat) : '\n' ∉ (Date.padded width n).toList := by
  intro mem
  simp only [Date.padded, String.toList_ofList, List.mem_append, List.mem_replicate] at mem
  obtain ⟨_, zero⟩ | digit := mem
  · cases zero
  · exact absurd (Nat.isDigit_of_mem_toDigits (by decide) (by decide) digit) (by decide)

theorem noFeed_date (date : Date) : '\n' ∉ date.text.toList := by
  have sign : '\n' ∉
      (if date.year < 0 then "-" else if 9999 < date.year then "+" else "").toList := by
    split
    · decide
    · split <;> decide
  have hyphen : '\n' ∉ "-".toList := by decide
  unfold Date.text
  simp only [String.toList_append, toString, List.mem_append, sign, noFeed_padded, hyphen, or_self,
    not_false_eq_true]

/-- A banner is one line in front of the text, if what it says stands on one line. -/
theorem text_banner {banner : Banner} (tool : '\n' ∉ banner.tool.toList)
    (version : '\n' ∉ banner.version.toList) :
    ∃ line : String, '\n' ∉ line.toList ∧ ∀ (store : Store) (options : Options),
      text store { options with banner := some banner } =
        line ++ "\n" ++ text store { options with banner := none } := by
  refine ⟨s!"// Generated by {banner.tool} {banner.version} on {banner.date.text}", ?_,
    fun store options => ?_⟩
  · have fixed : '\n' ∉ "// Generated by ".toList ∧ '\n' ∉ " ".toList ∧ '\n' ∉ " on ".toList := by
      decide
    simp only [String.toList_append, toString, List.mem_append, fixed, tool, version, noFeed_date,
      or_self, not_false_eq_true]
  · have same : Banner.line banner =
        s!"// Generated by {banner.tool} {banner.version} on {banner.date.text}" ++ "\n" :=
      rfl
    simp only [text, Option.elim_some, Option.elim_none, same, String.append_assoc,
      String.empty_append]

/-- **A source with placeholders determines its store.** All entries, with every component, can be
read off the text, whatever include file and banner it was made with. So two stores with the same
text are the same. A banner without a line feed is one line in front of the text, which depends on
nothing else, and nothing else depends on the banner. -/
theorem diagnostic_text_readable {s t : Store} (hs : ScannerFormed s) (ht : ScannerFormed t)
    {options options' : Options} (diagnostic : options.diagnostic = true)
    (diagnostic' : options'.diagnostic = true) :
    read? (text s options) = some s.toList ∧
    (text s options = text t options' → s.toList = t.toList) ∧
    ∀ banner : Banner, '\n' ∉ banner.tool.toList → '\n' ∉ banner.version.toList →
      ∃ line : String, '\n' ∉ line.toList ∧ ∀ (store : Store) (options : Options),
        text store { options with banner := some banner } =
          line ++ "\n" ++ text store { options with banner := none } := by
  refine ⟨read?_text hs diagnostic, fun same => ?_, fun _ => text_banner⟩
  have read := read?_text hs diagnostic
  rw [same, read?_text ht diagnostic'] at read
  exact (Option.some.inj read).symm

/-- A banner with a date from before the common era. -/
def earlyBanner : Banner := ⟨"a tool", "", ⟨-1, 2, 28, by decide, by decide⟩⟩

theorem diagnostic_text_readable_hostile :
    ∃ store : Store, store.toList = hostileEntries ∧ ScannerFormed store ∧
      read? (text store { diagnostic := true }) = some hostileEntries ∧
      ∃ line : String, ∀ header,
        text store { includeFile := header, banner := some earlyBanner } =
          line ++ "\n" ++ text store { includeFile := header } := by
  obtain ⟨store, entries, formed⟩ := exists_hostile
  have shown : ({ diagnostic := true } : Options).diagnostic = true := rfl
  obtain ⟨read, _, banner⟩ := diagnostic_text_readable formed formed shown shown
  obtain ⟨line, _, front⟩ := banner earlyBanner (by decide) (by decide)
  exact ⟨store, entries, formed, entries ▸ read, line,
    fun header => front store { includeFile := header }⟩

end Source

end WidgetBindings
