import WidgetBindings.Proofs.Source.Names

/-!
# Placeholders

A body shows a list of calls, each on or off. With placeholders the calls that are off stand there
as comments, and nothing else tells this body from the plain one:

* `filter_shown`: without its comments it is the plain body;
* `map_uncommented_shown`: with the marks of its comments taken away it is the plain body of the
  calls when all of them are on;
* `Shows`: what is known of both bodies of a source, so that the two follow for each of them;
* `bodies_agree`: both bodies of a store, and which lines an entry has in them.
-/

namespace WidgetBindings

/-- The entry with every flag on. -/
def Entry.switchedOn (entry : Entry) : Entry :=
  { entry with produce := true, consume := true, group := true }

/-- The store with every flag of every entry on. -/
def Store.switchedOn (store : Store) : Store where
  entries := store.entries.map Entry.switchedOn
  index := store.index
  coherent id i := by
    rw [store.coherent, Array.getElem?_map, Option.map_map]
    rfl

theorem Store.toList_switchedOn (store : Store) :
    store.switchedOn.toList = store.toList.map Entry.switchedOn := by
  simp [toList, switchedOn]

namespace Source

open Declaration (IsIdentifier)

/-! ## Calls that are on or off -/

/-- A call with its flag. -/
structure Slot where
  enabled : Bool
  call : String

namespace Slot

def line (slot : Slot) : List Char := margin slot.enabled ++ slot.call.toList

def on (slot : Slot) : Slot := { slot with enabled := true }

/-- The call does not begin like a comment. -/
def IsCode (slot : Slot) : Prop := slot.call.toList.head? ≠ some '/'

end Slot

instance : DecidablePred IsComment :=
  fun line => inferInstanceAs (Decidable (margin false <+: line))

/-- A line with the mark of a comment taken away, if it has one. -/
def uncommented (line : List Char) : List Char :=
  if IsComment line then margin true ++ line.drop (margin false).length else line

theorem uncommented_line {slot : Slot} (code : slot.IsCode) :
    uncommented slot.line = slot.on.line := by
  have comment : IsComment slot.line ↔ slot.enabled = false := isComment_margin code slot.enabled
  unfold uncommented
  cases on : slot.enabled with
  | false => rw [if_pos (comment.2 on), Slot.line, on, List.drop_left, Slot.line, Slot.on]
  | true =>
    rw [if_neg (by rw [comment, on]; decide), Slot.line, on, Slot.line, Slot.on]

/-- The lines of a list of calls. -/
def shown (diagnostic : Bool) (slots : List Slot) : List (List Char) :=
  slots.flatMap fun slot => callLines slot.enabled diagnostic slot.call

theorem shown_cons (diagnostic : Bool) (slot : Slot) (slots : List Slot) :
    shown diagnostic (slot :: slots) =
      callLines slot.enabled diagnostic slot.call ++ shown diagnostic slots :=
  List.flatMap_cons

/-- With placeholders each call has a line. -/
theorem shown_true (slots : List Slot) : shown true slots = slots.map Slot.line := by
  induction slots with
  | nil => rfl
  | cons slot slots ih =>
    rw [shown_cons, ih, callLines, Bool.or_true]
    rfl

/-- Without them each call that is on has a line. -/
theorem shown_false (slots : List Slot) :
    shown false slots = (slots.filter Slot.enabled).map Slot.line := by
  induction slots with
  | nil => rfl
  | cons slot slots ih =>
    rw [shown_cons, ih, callLines, Bool.or_false]
    cases on : slot.enabled with
    | false => rw [List.filter_cons_of_neg (by simp [on])]; rfl
    | true => rw [List.filter_cons_of_pos on, List.map_cons, Slot.line, on]; rfl

theorem shown_flatMap (diagnostic : Bool) (entries : List Entry) (slots : Entry → List Slot) :
    shown diagnostic (entries.flatMap slots) =
      entries.flatMap fun e => shown diagnostic (slots e) :=
  List.flatMap_assoc

section
variable {slots : List Slot} (code : ∀ slot ∈ slots, slot.IsCode)
include code

/-- Without its comments a body with placeholders is plain. -/
theorem filter_shown :
    (shown true slots).filter (fun line => ¬ IsComment line) = shown false slots := by
  rw [shown_true, shown_false, List.filter_map]
  refine congrArg (List.map Slot.line) (List.filter_congr fun slot mem => ?_)
  have comment : IsComment slot.line ↔ slot.enabled = false := isComment_margin (code slot mem) _
  simp [comment]

/-- With the marks of its comments taken away it is the plain body of calls that are all on. -/
theorem map_uncommented_shown :
    (shown true slots).map uncommented = shown false (slots.map Slot.on) := by
  have all : (slots.map Slot.on).filter Slot.enabled = slots.map Slot.on := by
    refine List.filter_eq_self.2 fun slot mem => ?_
    obtain ⟨_, _, rfl⟩ := List.mem_map.1 mem
    rfl
  rw [shown_true, shown_false, all, List.map_map, List.map_map]
  exact List.map_congr_left fun slot mem => uncommented_line (code slot mem)

end

/-! ## Bodies that show calls -/

/-- A body, with placeholders and without, shows calls, each on a line of its own. -/
structure Shows (body : Bool → String) (slots : List Slot) : Prop where
  text : ∀ diagnostic, (body diagnostic).toList = Text.unlines (shown diagnostic slots)
  lines : ∀ diagnostic, Text.lines (body diagnostic).toList = shown diagnostic slots
  code : ∀ slot ∈ slots, slot.IsCode

section
variable {body other : Bool → String} {slots : List Slot}

theorem Shows.plain (h : Shows body slots) : (body false).toList =
    Text.unlines ((Text.lines (body true).toList).filter fun line => ¬ IsComment line) := by
  rw [h.lines, filter_shown h.code, h.text]

theorem Shows.switchedOn (h : Shows body slots) (all : Shows other (slots.map Slot.on)) :
    (other false).toList =
      Text.unlines ((Text.lines (body true).toList).map uncommented) := by
  rw [h.lines, map_uncommented_shown h.code, all.text]

end

def producing (entry : Entry) : Slot := ⟨entry.produce, producerCall entry⟩

def consuming (entry : Entry) : Slot := ⟨entry.consume, consumerCall entry⟩

def grouped (entry : Entry) : Slot := ⟨entry.group, groupCall entry⟩

theorem isCode_producing (entry : Entry) : (producing entry).IsCode := by
  rw [Slot.IsCode, producing, toList_producerCall]
  exact head?_quotedCall (by decide)

theorem isCode_consuming (entry : Entry) : (consuming entry).IsCode := by
  rw [Slot.IsCode, consuming, toList_consumerCall]
  exact head?_quotedCall (by decide)

theorem isCode_grouped (entry : Entry) : (grouped entry).IsCode := by
  simp [Slot.IsCode, grouped, toList_groupCall]

theorem shown_registration (diagnostic : Bool) (entry : Entry) :
    shown diagnostic [producing entry, consuming entry] = registration diagnostic entry := by
  rw [shown_cons, shown_cons, registration]
  exact congrArg _ (List.append_nil _)

theorem shown_grouping (diagnostic : Bool) (entry : Entry) :
    shown diagnostic [grouped entry] = grouping diagnostic entry := by
  rw [shown_cons, grouping]
  exact List.append_nil _

section
variable {store : Store} (formed : ScannerFormed store)
include formed

theorem shows_registrationBody : Shows (registrationBody store)
    (store.toList.flatMap fun e => [producing e, consuming e]) where
  text diagnostic := by
    rw [toList_registrationBody, shown_flatMap]
    simp only [shown_registration]
  lines diagnostic := by
    rw [lines_registrationBody formed, shown_flatMap]
    simp only [shown_registration]
  code := by
    intro slot mem
    obtain ⟨entry, _, mem⟩ := List.mem_flatMap.1 mem
    obtain rfl | rfl : slot = producing entry ∨ slot = consuming entry := by simpa using mem
    · exact isCode_producing entry
    · exact isCode_consuming entry

theorem shows_groupBody :
    Shows (groupBody store) (store.toList.flatMap fun e => [grouped e]) where
  text diagnostic := by
    rw [toList_groupBody, shown_flatMap]
    simp only [shown_grouping]
  lines diagnostic := by
    rw [lines_groupBody formed, shown_flatMap]
    simp only [shown_grouping]
  code := by
    intro slot mem
    obtain ⟨entry, _, mem⟩ := List.mem_flatMap.1 mem
    obtain rfl : slot = grouped entry := by simpa using mem
    exact isCode_grouped entry

theorem scannerFormed_switchedOn : ScannerFormed store.switchedOn := by
  intro e he
  rw [Store.toList_switchedOn] at he
  obtain ⟨d, hd, rfl⟩ := List.mem_map.1 he
  exact formed d hd

end

/-- When all flags of a store are on, so are its calls; flags do not show in a call otherwise. -/
theorem map_on_flatMap {slots : Entry → List Slot}
    (h : ∀ e, slots e.switchedOn = (slots e).map Slot.on) (store : Store) :
    (store.toList.flatMap slots).map Slot.on = store.switchedOn.toList.flatMap slots := by
  rw [Store.toList_switchedOn, List.map_flatMap, List.flatMap_map]
  exact List.flatMap_congr fun e _ => (h e).symm

/-! ## Lines of one entry -/

/-- The line that registers a producer, with its event. -/
def producerLine (enabled : Bool) (entry : Entry) : List Char :=
  margin enabled ++ quotedCall "host.AddProducer" entry.displayName
    [entry.identifier, entry.controlType.tag, entry.event.tag]

/-- The line that registers a consumer, without an event. -/
def consumerLine (enabled : Bool) (entry : Entry) : List Char :=
  margin enabled ++ quotedCall "host.AddConsumer" entry.displayName
    [entry.identifier, entry.controlType.tag]

/-- The line that adds an object to the group. -/
def memberLine (enabled : Bool) (entry : Entry) : List Char :=
  margin enabled ++ ("lv_group_add_obj(group".toList ++ arguments [entry.identifier])

/-- Whether a line calls a function. -/
def calls (function : String) (line : List Char) : Bool :=
  (margin true ++ (function.toList ++ ['('])).isPrefixOf line

theorem line_producing (entry : Entry) :
    (producing entry).line = producerLine entry.produce entry := by
  rw [Slot.line, producing, toList_producerCall]
  rfl

theorem line_consuming (entry : Entry) :
    (consuming entry).line = consumerLine entry.consume entry := by
  rw [Slot.line, consuming, toList_consumerCall]
  rfl

theorem line_grouped (entry : Entry) : (grouped entry).line = memberLine entry.group entry := by
  rw [Slot.line, grouped, toList_groupCall]
  rfl

section
variable {slot : Entry → Slot} {line : Bool → Entry → List Char}
  (h : ∀ e, (slot e).line = line (slot e).enabled e)
include h

/-- In a plain body the entries whose call is on have one line each. -/
theorem shown_each (entries : List Entry) : shown false (entries.flatMap fun e => [slot e]) =
    (entries.filter fun e => (slot e).enabled).map (line true) := by
  rw [← List.map_eq_flatMap, shown_false, List.filter_map, List.map_map]
  refine List.map_congr_left fun e mem => ?_
  have on : (slot e).enabled = true := (List.mem_filter.1 mem).2
  rw [Function.comp_apply, h, on]

theorem eq_of_mem_shown {entry : Entry} {l : List Char} (mem : l ∈ shown false [slot entry]) :
    l = line true entry := by
  have each : shown false [slot entry] = _ := shown_each h [entry]
  rw [each] at mem
  obtain ⟨e, he, rfl⟩ := List.mem_map.1 mem
  obtain rfl : e = entry := List.mem_singleton.1 (List.mem_filter.1 he).1
  rfl

end

theorem shown_both (entry : Entry) : shown false [producing entry, consuming entry] =
    shown false [producing entry] ++ shown false [consuming entry] := by
  rw [← List.singleton_append]
  exact List.flatMap_append

theorem calls_producerLine (entry : Entry) :
    calls "host.AddProducer" (producerLine true entry) = true ∧
      calls "host.AddConsumer" (producerLine true entry) = false := by
  exact ⟨rfl, rfl⟩

theorem calls_consumerLine (entry : Entry) :
    calls "host.AddProducer" (consumerLine true entry) = false ∧
      calls "host.AddConsumer" (consumerLine true entry) = true := by
  exact ⟨rfl, rfl⟩

section
variable {entry : Entry} {line : List Char}

theorem calls_of_mem_producing (mem : line ∈ shown false [producing entry]) :
    calls "host.AddProducer" line = true ∧ calls "host.AddConsumer" line = false := by
  rw [eq_of_mem_shown line_producing mem]
  exact calls_producerLine entry

theorem calls_of_mem_consuming (mem : line ∈ shown false [consuming entry]) :
    calls "host.AddProducer" line = false ∧ calls "host.AddConsumer" line = true := by
  rw [eq_of_mem_shown line_consuming mem]
  exact calls_consumerLine entry

end

/-- Of the lines of an entry in the first body one may register the producer. -/
theorem filter_producing (entry : Entry) :
    (shown false [producing entry, consuming entry]).filter (calls "host.AddProducer") =
      shown false [producing entry] := by
  have none : (shown false [consuming entry]).filter (calls "host.AddProducer") = [] := by
    refine List.filter_eq_nil_iff.2 fun line mem => ?_
    rw [(calls_of_mem_consuming mem).1]
    exact Bool.false_ne_true
  rw [shown_both, List.filter_append, none, List.append_nil]
  exact List.filter_eq_self.2 fun line mem => (calls_of_mem_producing mem).1

/-- And one may register the consumer. -/
theorem filter_consuming (entry : Entry) :
    (shown false [producing entry, consuming entry]).filter (calls "host.AddConsumer") =
      shown false [consuming entry] := by
  have none : (shown false [producing entry]).filter (calls "host.AddConsumer") = [] := by
    refine List.filter_eq_nil_iff.2 fun line mem => ?_
    rw [(calls_of_mem_producing mem).2]
    exact Bool.false_ne_true
  rw [shown_both, List.filter_append, none, List.nil_append]
  exact List.filter_eq_self.2 fun line mem => (calls_of_mem_consuming mem).2

/-! ## Both bodies of a store -/

section
variable {store : Store} (formed : ScannerFormed store)
include formed

theorem lines_plainRegistration : Text.lines (registrationBody store false).toList =
    store.toList.flatMap fun e => shown false [producing e, consuming e] := by
  rw [(shows_registrationBody formed).lines, shown_flatMap]

theorem filter_plainRegistration :
    (Text.lines (registrationBody store false).toList).filter (calls "host.AddProducer") =
        (store.toList.filter Entry.produce).map (producerLine true) ∧
      (Text.lines (registrationBody store false).toList).filter (calls "host.AddConsumer") =
        (store.toList.filter Entry.consume).map (consumerLine true) := by
  rw [lines_plainRegistration formed, List.filter_flatMap, List.filter_flatMap]
  constructor
  · simp only [filter_producing, ← shown_flatMap]
    exact shown_each line_producing store.toList
  · simp only [filter_consuming, ← shown_flatMap]
    exact shown_each line_consuming store.toList

/-- Each line of the plain body registers a producer or a consumer. -/
theorem calls_of_mem_plainRegistration :
    ∀ line ∈ Text.lines (registrationBody store false).toList,
      calls "host.AddProducer" line ∨ calls "host.AddConsumer" line := by
  intro line mem
  rw [lines_plainRegistration formed] at mem
  obtain ⟨entry, _, mem⟩ := List.mem_flatMap.1 mem
  rw [shown_both] at mem
  obtain mem | mem := List.mem_append.1 mem
  · exact Or.inl (calls_of_mem_producing mem).1
  · exact Or.inr (calls_of_mem_consuming mem).2

end

/-- **Plain and diagnostic bodies agree.** For a store whose identifiers are as the scanner finds
them, each of the two plain bodies is the one with placeholders without its comments, and taking the
marks of the comments away gives the plain body of the same store with all flags on. With
placeholders an entry has two lines in the first body, its producer before its consumer, and one in
the second. In the plain bodies the entries that produce have one line each that registers the
producer, with its event, the entries that consume one that registers the consumer, without it, the
entries of the group one that adds the object, and there are no other lines. -/
theorem bodies_agree {store : Store} (formed : ScannerFormed store) :
    let plain := Text.lines (registrationBody store false).toList
    (∀ body ∈ [registrationBody, groupBody],
      (body store false).toList =
        Text.unlines ((Text.lines (body store true).toList).filter fun line => ¬ IsComment line) ∧
      (body store.switchedOn false).toList =
        Text.unlines ((Text.lines (body store true).toList).map uncommented)) ∧
    store.switchedOn.toList = store.toList.map Entry.switchedOn ∧
    Text.lines (registrationBody store true).toList =
      store.toList.flatMap (fun e => [producerLine e.produce e, consumerLine e.consume e]) ∧
    Text.lines (groupBody store true).toList = store.toList.map (fun e => memberLine e.group e) ∧
    plain.filter (calls "host.AddProducer") =
      (store.toList.filter Entry.produce).map (producerLine true) ∧
    plain.filter (calls "host.AddConsumer") =
      (store.toList.filter Entry.consume).map (consumerLine true) ∧
    (∀ line ∈ plain, calls "host.AddProducer" line ∨ calls "host.AddConsumer" line) ∧
    Text.lines (groupBody store false).toList =
      (store.toList.filter Entry.group).map (memberLine true) := by
  intro plain
  have registrations := shows_registrationBody formed
  have groups := shows_groupBody formed
  have formedOn := scannerFormed_switchedOn formed
  have registrationsOn : Shows (registrationBody store.switchedOn) _ :=
    shows_registrationBody formedOn
  have groupsOn : Shows (groupBody store.switchedOn) _ := shows_groupBody formedOn
  rw [← map_on_flatMap fun _ => rfl] at registrationsOn groupsOn
  obtain ⟨producers, consumers⟩ := filter_plainRegistration formed
  refine ⟨?_, store.toList_switchedOn, ?_, ?_, producers, consumers,
    calls_of_mem_plainRegistration formed, ?_⟩
  · simp only [List.forall_mem_cons, List.not_mem_nil, false_implies, implies_true, and_true]
    exact ⟨⟨registrations.plain, registrations.switchedOn registrationsOn⟩,
      groups.plain, groups.switchedOn groupsOn⟩
  · rw [registrations.lines, shown_true, List.map_flatMap]
    simp only [List.map_cons, List.map_nil, line_producing, line_consuming]
  · rw [groups.lines, shown_true, ← List.map_eq_flatMap, List.map_map]
    exact List.map_congr_left fun e _ => line_grouped e
  · rw [groups.lines]
    exact shown_each line_grouped store.toList

theorem bodies_agree_hostile : ∃ store : Store, store.toList = hostileEntries ∧
    ScannerFormed store ∧
    (registrationBody store false).toList =
      Text.unlines ((Text.lines (registrationBody store true).toList).filter
        fun line => ¬ IsComment line) ∧
    (Text.lines (registrationBody store true).toList).length = 6 ∧
    (Text.lines (groupBody store false).toList).length = 1 := by
  obtain ⟨store, entries, formed⟩ := exists_hostile
  obtain ⟨bodies, _, first, _, _, _, _, second⟩ := bodies_agree formed
  refine ⟨store, entries, formed, (bodies registrationBody (by simp)).1, ?_, ?_⟩
  · rw [first, entries]
    rfl
  · rw [second, entries]
    rfl

end Source

end WidgetBindings
