import WidgetBindings.Proofs.Overlay.Addressing
import WidgetBindings.Proofs.Session.InPlace
import WidgetBindings.Proofs.Session.Reopening

/-!
# Commands that fail

A command that fails leaves the session as it has found it, although its stages change the session
in place: nothing is changed before the last stage that can fail. This holds in any surroundings.

* `refused_iff`: which changes are refused, and with what;
* `obey_failed`: what a failed command leaves;
* `load_status`: which documents a load cannot use;
* `failed_command_changes_nothing`: all of it.
-/

namespace WidgetBindings

/-! ## What an operator may not ask for -/

namespace Field

/-- The names of a field for an operator. -/
def names : Field → List String
  | displayName => ["name", "display_name"]
  | controlType => ["type", "control_type"]
  | event => ["event", "evt"]
  | consume => ["con", "consume"]
  | produce => ["pro", "produce"]
  | group => ["grp", "group"]

/-- The names of the identifier, which never changes. -/
def fixedNames : List String := ["identifier", "id"]

theorem ofName_eq_ok_iff_names {name : String} {field : Field} :
    ofName name = .ok field ↔ name ∈ field.names := by
  constructor
  · intro h
    unfold ofName at h
    split_ifs at h <;> cases h <;> simpa [names]
  · intro h
    cases field <;> simp only [names, List.mem_cons, List.not_mem_nil, or_false] at h <;>
      obtain rfl | rfl := h <;> decide

theorem ofName_eq_error_iff {name : String} {refusal : Refusal} :
    ofName name = .error refusal ↔ (∀ field : Field, name ∉ field.names) ∧
      refusal = if name ∈ fixedNames then .immutableField name else .unknownField name := by
  have none_else {r : Refusal} (h : ofName name = .error r) :
      (∀ field : Field, name ∉ field.names) ∧
        r = if name ∈ fixedNames then .immutableField name else .unknownField name := by
    constructor
    · intro field mem
      rw [ofName_eq_ok_iff_names.2 mem] at h
      cases h
    · unfold ofName at h
      split_ifs at h <;> cases h <;> simp_all [fixedNames]
  constructor
  · exact none_else
  · rintro ⟨unnamed, rfl⟩
    cases outcome : ofName name with
    | ok field => exact absurd (ofName_eq_ok_iff_names.1 outcome) (unnamed field)
    | error r => rw [(none_else outcome).2]

theorem not_mem_names_of_fixed {name : String} (fixed : name ∈ fixedNames) (field : Field) :
    name ∉ field.names := by
  obtain rfl | rfl : name = "identifier" ∨ name = "id" := by
    simpa [fixedNames] using fixed
  all_goals cases field <;> decide

end Field

theorem ControlType.ofTag?_eq_none_iff {text : String} :
    ofTag? text = none ↔ ∀ t : ControlType, t.tag ≠ text := by
  have all (t : ControlType) : t ∈ ControlType.all := by cases t <;> decide
  simp [ofTag?, all]

theorem EventCode.ofTag?_eq_none_iff {text : String} :
    ofTag? text = none ↔ ∀ e : EventCode, e.tag ≠ text := by
  have all (e : EventCode) : e ∈ EventCode.all := by cases e <;> decide
  simp [ofTag?, all]

/-- Why a text is no value for a field. -/
inductive Unsuited (text : String) : Field → Refusal → Prop
  | controlType (unknown : ∀ t : ControlType, t.tag ≠ text) :
      Unsuited text .controlType (.unknownControlType text)
  | event (unknown : ∀ e : EventCode, e.tag ≠ text) : Unsuited text .event (.unknownEvent text)
  | flag {field : Field} (isFlag : field.isFlag = true) (noWord : parseFlag? text = none) :
      Unsuited text field (.invalidValue field.suffix text)

theorem Edit.parse_eq_error_iff {field : Field} {text : String} {refusal : Refusal} :
    parse field text = .error refusal ↔ Unsuited text field refusal := by
  constructor
  · intro h
    cases field with
    | displayName => cases h
    | controlType =>
      cases known : ControlType.ofTag? text <;> simp only [parse, known] at h <;> cases h
      exact .controlType (ControlType.ofTag?_eq_none_iff.1 known)
    | event =>
      cases known : EventCode.ofTag? text <;> simp only [parse, known] at h <;> cases h
      exact .event (EventCode.ofTag?_eq_none_iff.1 known)
    | consume | produce | group =>
      cases word : parseFlag? text <;> simp only [parse, parse.parseFlag, word] at h <;> cases h
      exact .flag rfl word
  · rintro (unknown | unknown | ⟨isFlag, noWord⟩)
    · simp only [parse, ControlType.ofTag?_eq_none_iff.2 unknown]
    · simp only [parse, EventCode.ofTag?_eq_none_iff.2 unknown]
    · cases field with
      | displayName | controlType | event => cases isFlag
      | consume | produce | group => simp only [parse, parse.parseFlag, noWord]

namespace Session

variable {session : Session}

/-- Why a change is refused. The name of the field is looked at first, then its value, and the
identifier last. -/
inductive Change.Refused (store : Store) : Change → Refusal → Prop
  | unknownField {identifier name value : String} (unnamed : ∀ field : Field, name ∉ field.names)
      (free : name ∉ Field.fixedNames) :
      Refused store (.edit identifier name value) (.unknownField name)
  | immutableField {identifier name value : String} (fixed : name ∈ Field.fixedNames) :
      Refused store (.edit identifier name value) (.immutableField name)
  | value {identifier name value : String} {field : Field} {refusal : Refusal}
      (named : name ∈ field.names) (unsuited : Unsuited value field refusal) :
      Refused store (.edit identifier name value) refusal
  | identifier {identifier name value : String} {field : Field} (named : name ∈ field.names)
      (suited : ∀ refusal, ¬ Unsuited value field refusal)
      (absent : identifier ∉ store.identifiers) :
      Refused store (.edit identifier name value) (.unknownIdentifier identifier)
  | entry {identifier : String} {edit : Edit} (absent : identifier ∉ store.identifiers) :
      Refused store (.apply identifier edit) (.unknownIdentifier identifier)

theorem edited_eq_error_iff {identifier : String} {edit : Edit} {refusal : Refusal} :
    session.edited identifier edit = .error refusal ↔
      identifier ∉ session.store.identifiers ∧ refusal = .unknownIdentifier identifier := by
  rw [← @Store.edit_eq_error_iff _ _ edit, edited]
  cases session.store.edit identifier edit <;> simp [bind, Except.bind]

theorem apply_of_absent {identifier : String} (edit : Edit)
    (absent : identifier ∉ session.store.identifiers) :
    session.apply identifier edit = pure (.error (.edit (.unknownIdentifier identifier))) := by
  rw [apply, edited_eq_error_iff.2 ⟨absent, rfl⟩]

/-- A change is refused before anything is asked of the surroundings. -/
theorem change_of_refused {change : Change} {refusal : Refusal}
    (refused : change.Refused session.store refusal) :
    session.change change = pure (.error (.edit refusal)) := by
  cases refused with
  | unknownField unnamed free =>
    rw [Session.change, Session.edit, parseEdit,
      Field.ofName_eq_error_iff.2 ⟨unnamed, (if_neg free).symm⟩]
    rfl
  | immutableField fixed =>
    rw [Session.change, Session.edit, parseEdit,
      Field.ofName_eq_error_iff.2 ⟨Field.not_mem_names_of_fixed fixed, (if_pos fixed).symm⟩]
    rfl
  | value named unsuited =>
    rw [Session.change, Session.edit, parseEdit, Field.ofName_eq_ok_iff_names.2 named]
    simp only [bind, Except.bind, Edit.parse_eq_error_iff.2 unsuited]
  | @identifier identifier name value field named suited absent =>
    rw [Session.change, Session.edit, parseEdit, Field.ofName_eq_ok_iff_names.2 named]
    cases parsed : Edit.parse field value with
    | error r => exact absurd (Edit.parse_eq_error_iff.1 parsed) (suited r)
    | ok edit =>
      simp only [bind, Except.bind, parsed]
      exact apply_of_absent edit absent
  | entry absent => exact apply_of_absent _ absent

theorem absent_of_apply {identifier : String} {edit : Edit} {e : SessionError}
    (h : (session.apply identifier edit).MayReturn (.error e)) :
    e = .edit (.unknownIdentifier identifier) ∧ identifier ∉ session.store.identifiers := by
  unfold apply at h
  cases outcome : session.edited identifier edit with
  | error refusal =>
    rw [outcome] at h
    obtain ⟨absent, rfl⟩ := edited_eq_error_iff.1 outcome
    cases Program.mayReturn_pure_iff.1 h
    exact ⟨rfl, absent⟩
  | ok left =>
    rw [outcome] at h
    obtain ⟨_, _, h⟩ := Program.mayReturn_bind_iff.1 h
    cases Program.mayReturn_pure_iff.1 h

/-- A change that fails has been refused, by the first of the three that is wrong. -/
theorem refused_of_change {change : Change} {e : SessionError}
    (h : (session.change change).MayReturn (.error e)) :
    ∃ refusal, e = .edit refusal ∧ change.Refused session.store refusal := by
  cases change with
  | apply identifier edit =>
    obtain ⟨same, absent⟩ := absent_of_apply h
    exact ⟨_, same, .entry absent⟩
  | edit identifier name value =>
    rw [Session.change, Session.edit, parseEdit] at h
    cases outcome : Field.ofName name with
    | error refusal =>
      rw [outcome] at h
      cases Program.mayReturn_pure_iff.1 h
      obtain ⟨unnamed, rfl⟩ := Field.ofName_eq_error_iff.1 outcome
      by_cases fixed : name ∈ Field.fixedNames
      · exact ⟨_, by rw [if_pos fixed], .immutableField fixed⟩
      · exact ⟨_, by rw [if_neg fixed], .unknownField unnamed fixed⟩
    | ok field =>
      have named := Field.ofName_eq_ok_iff_names.1 outcome
      simp only [outcome, bind, Except.bind] at h
      cases parsed : Edit.parse field value with
      | error refusal =>
        rw [parsed] at h
        cases Program.mayReturn_pure_iff.1 h
        exact ⟨refusal, rfl, .value named (Edit.parse_eq_error_iff.1 parsed)⟩
      | ok edit =>
        rw [parsed] at h
        obtain ⟨same, absent⟩ := absent_of_apply h
        refine ⟨_, same, .identifier named (fun refusal unsuited => ?_) absent⟩
        rw [Edit.parse_eq_error_iff.2 unsuited] at parsed
        cases parsed

/-! ## What a failed command leaves -/

/-- Whether a command has not done what it was asked for. -/
def Reply.failed : Reply → Bool
  | scanned (.ok _) | loaded (.loaded _) | changed (.ok _) | saved (.ok _) => false
  | scanned (.error _) | loaded .missing | loaded .unparsable | loaded .unreadable
  | changed (.error _) | saved (.error _) => true

/-- The error that a command has ended with. -/
def Reply.error? : Reply → Option SessionError
  | scanned (.error e) | changed (.error e) | saved (.error e) => some e
  | scanned (.ok _) | loaded _ | changed (.ok _) | saved (.ok _) => none

theorem header_of_rescan {e : SessionError} (h : session.rescan.MayReturn (.error e)) :
    ∃ failure, e = .header failure := by
  simp only [rescan, Program.mayReturn_within_iff, Program.mayReturn_bind_iff] at h
  obtain ⟨read, _, h⟩ := h
  cases read with
  | error failure => exact ⟨failure, Except.error.inj (Program.mayReturn_pure_iff.1 h)⟩
  | ok text =>
    obtain ⟨_, _, h⟩ := Program.mayReturn_bind_iff.1 h
    cases Program.mayReturn_pure_iff.1 h

theorem output_of_save {options : Source.Options} {e : SessionError}
    (h : (session.save options).MayReturn (.error e)) :
    (∃ failure, e = .document failure) ∨ ∃ failure, e = .source failure := by
  obtain ⟨saved, _, h⟩ := Program.mayReturn_bind_iff.1 h
  cases saved with
  | error failure => exact .inl ⟨failure, Except.error.inj (Program.mayReturn_pure_iff.1 h)⟩
  | ok _ =>
    obtain ⟨generated, _, h⟩ := Program.mayReturn_bind_iff.1 h
    cases generated with
    | error failure => exact .inr ⟨failure, Except.error.inj (Program.mayReturn_pure_iff.1 h)⟩
    | ok source => cases Program.mayReturn_pure_iff.1 h

/-- A load that has not laid a document over the store leaves the session alone. -/
theorem session_of_load {left : Session} {status : LoadStatus}
    (h : session.load.MayReturn (left, status)) (unused : (Reply.loaded status).failed = true) :
    left = session := by
  obtain ⟨read, _, h⟩ := Program.mayReturn_bind_iff.1 h
  cases read with
  | ok document =>
    cases document with
    | none => exact (Prod.mk.inj (Program.mayReturn_pure_iff.1 h)).1
    | some document =>
      obtain ⟨_, rfl⟩ := Prod.mk.inj (Program.mayReturn_pure_iff.1 h)
      cases unused
  | error e =>
    obtain ⟨_, _, h⟩ := Program.mayReturn_bind_iff.1 h
    cases e <;> exact (Prod.mk.inj (Program.mayReturn_pure_iff.1 h)).1

theorem failed_of_error {reply : Reply} {e : SessionError} (h : reply.error? = some e) :
    reply.failed = true := by
  cases reply with
  | loaded status => cases h
  | scanned outcome | changed outcome | saved outcome => cases outcome <;> trivial

/-- In any surroundings a command that fails leaves the session as it was, and its error is fatal
exactly if it was a scan. -/
theorem obey_failed {command : Command} {reply : Reply} {left : Session}
    (step : (session.obey command).MayReturn (reply, left)) :
    (reply.failed = true → left = session) ∧
      ∀ e, reply.error? = some e → (e.isFatal = true ↔ command = .rescan) := by
  cases command with
  | rescan =>
    obtain ⟨outcome, returned, h⟩ := Program.mayReturn_bind_iff.1 step
    cases outcome with
    | ok scanned =>
      cases Program.mayReturn_pure_iff.1 h
      exact ⟨by simp [Reply.failed], by simp [Reply.error?]⟩
    | error e =>
      cases Program.mayReturn_pure_iff.1 h
      obtain ⟨failure, rfl⟩ := header_of_rescan returned
      refine ⟨fun _ => rfl, ?_⟩
      rintro _ ⟨⟩
      simp [SessionError.isFatal]
  | load =>
    obtain ⟨⟨loaded, status⟩, returned, h⟩ := Program.mayReturn_bind_iff.1 step
    cases Program.mayReturn_pure_iff.1 h
    exact ⟨session_of_load returned, by simp [Reply.error?]⟩
  | change change =>
    obtain ⟨outcome, returned, h⟩ := Program.mayReturn_bind_iff.1 step
    cases outcome with
    | ok changed =>
      cases Program.mayReturn_pure_iff.1 h
      exact ⟨by simp [Reply.failed], by simp [Reply.error?]⟩
    | error e =>
      cases Program.mayReturn_pure_iff.1 h
      obtain ⟨refusal, rfl, _⟩ := refused_of_change returned
      refine ⟨fun _ => rfl, ?_⟩
      rintro _ ⟨⟩
      simp [SessionError.isFatal]
  | save options =>
    obtain ⟨outcome, returned, h⟩ := Program.mayReturn_bind_iff.1 step
    cases Program.mayReturn_pure_iff.1 h
    refine ⟨fun _ => rfl, ?_⟩
    cases outcome with
    | ok saved => simp [Reply.error?]
    | error e =>
      rintro _ ⟨⟩
      obtain ⟨failure, rfl⟩ | ⟨failure, rfl⟩ := output_of_save returned <;>
        simp [SessionError.isFatal]

theorem onlyLooks_read (path : String) : (Program.read path).OnlyLooks := ⟨rfl, fun _ => trivial⟩

theorem onlyLooks_rescan (session : Session) : session.rescan.OnlyLooks := by
  refine Program.onlyLooks_within ?_
  refine Program.onlyLooks_bind
    (Program.onlyLooks_bind (onlyLooks_read _) fun _ => trivial) fun read => ?_
  cases read with
  | error failure => exact Program.onlyLooks_pure _
  | ok text =>
    exact Program.onlyLooks_bind (Program.onlyLooks_reportAll _) fun _ => Program.onlyLooks_pure _

theorem onlyLooks_load (session : Session) : session.load.OnlyLooks := by
  refine Program.onlyLooks_bind (Program.onlyLooks_bind
    (Program.onlyLooks_bind (onlyLooks_read _) fun _ => trivial) fun read => ?_) fun found => ?_
  · cases read with
    | error failure => exact trivial
    | ok found =>
      cases found with
      | none => exact ⟨rfl, fun _ => trivial⟩
      | some document =>
        exact Program.onlyLooks_bind (Program.onlyLooks_reportAll _) fun _ => trivial
  · cases found with
    | error failure => cases failure <;> exact ⟨rfl, fun _ => trivial⟩
    | ok found => cases found <;> exact trivial

theorem onlyLooks_change (session : Session) (change : Change) :
    (session.change change).OnlyLooks := by
  have applying (identifier : String) (edit : Edit) :
      (session.apply identifier edit).OnlyLooks := by
    unfold apply
    cases session.edited identifier edit with
    | error refusal => exact trivial
    | ok left => exact ⟨rfl, fun _ => trivial⟩
  cases change with
  | apply identifier edit => exact applying identifier edit
  | edit identifier field value =>
    rw [Session.change, Session.edit]
    cases parseEdit field value with
    | error refusal => exact trivial
    | ok edit => exact applying identifier edit

/-- Only a save asks for anything that could change a file. -/
theorem onlyLooks_obey {command : Command} (h : ∀ options, command ≠ .save options) :
    (session.obey command).OnlyLooks := by
  cases command with
  | rescan =>
    refine Program.onlyLooks_bind session.onlyLooks_rescan fun outcome => ?_
    cases outcome <;> exact trivial
  | load => exact Program.onlyLooks_bind session.onlyLooks_load fun _ => trivial
  | change change => exact Program.onlyLooks_bind (session.onlyLooks_change change) fun _ => trivial
  | save options => cases h options rfl

/-! ## When a command fails -/

/-- A scan fails for its header only. That the pattern for the object type can be made is
assumed. -/
theorem rescan_fails_iff (disk : Disk) :
    (∃ e, ((session.obey .rescan).run disk).1.1 = .scanned (.error e)) ↔
      (∃ failure, disk.read session.project.headerPath = .error failure) ∨
        ∃ bytes, disk.read session.project.headerPath = .ok bytes ∧ Text.ofBytes? bytes = none := by
  have scanned : ((session.obey .rescan).run disk).1.1 =
      .scanned ((session.rescan.run disk).1.map lastScan) := by
    rw [obey, Program.run_bind]
    cases (session.rescan.run disk).1 <;> rfl
  rw [scanned, rescan_run]
  cases read : disk.read session.project.headerPath with
  | error failure => simp [Header.decode, Except.map]
  | ok bytes =>
    cases text : Text.ofBytes? bytes <;> simp [Header.decode, text, Except.map]

/-- Which documents a load cannot use: one that is not there, one that cannot be read, and one that
is no document, however much of it would be. -/
theorem load_status (disk : Disk) :
    let status := ((session.obey .load).run disk).1.1
    let read := disk.read session.project.documentPath
    (status = .loaded .missing ↔ read = .error .noSuchFile) ∧
    (status = .loaded .unreadable ↔ ∃ failure, failure ≠ .noSuchFile ∧ read = .error failure) ∧
    (status = .loaded .unparsable ↔
      ∃ bytes complaint, read = .ok bytes ∧ Document.ofBytes bytes = .error complaint) := by
  intro status read
  have loaded : status = .loaded (session.load.run disk).1.2 := by
    rw [show status = ((session.obey .load).run disk).1.1 from rfl, obey, Program.run_bind]
    rfl
  rw [loaded]
  simp only [load, Document.loadFor, Document.load?, Program.run_bind, Program.run_read,
    Program.run_pure]
  cases held : disk.read session.project.documentPath with
  | error failure => cases failure <;> simp [read, held, Document.decode]
  | ok bytes =>
    cases outcome : Document.ofBytes bytes <;> simp [read, held, Document.decode, outcome]

/-- **A failed command changes nothing.** The stages of a command change the session in place, and
come to what the command comes to. Whatever the surroundings answer, a command that fails leaves the
session as it was, and its error is fatal exactly if it was a scan. Unless it is a save, it asks for
nothing that changes a file. A scan fails if the header cannot be read or is no text, and for
nothing else as long as the object type is not too long for a pattern, as is assumed of all types; a
load does not use a document that is not there, cannot be read or is no document as a whole; a
change is refused for the name of the field, else for its value, else for the identifier. -/
theorem failed_command_changes_nothing (session : Session) :
    (∀ command, session.perform command = session.obey command) ∧
    (∀ command reply left, (session.perform command).MayReturn (reply, left) →
      (reply.failed = true → left = session) ∧
      ∀ e, reply.error? = some e → (e.isFatal = true ↔ command = .rescan)) ∧
    (∀ command, (∀ options, command ≠ .save options) →
      (session.perform command).OnlyLooks ∧
      ∀ disk, ((session.perform command).run disk).2 = disk) ∧
    (∀ disk, (∃ e, ((session.perform .rescan).run disk).1.1 = .scanned (.error e)) ↔
      (∃ failure, disk.read session.project.headerPath = .error failure) ∨
        ∃ bytes, disk.read session.project.headerPath = .ok bytes ∧ Text.ofBytes? bytes = none) ∧
    (∀ disk,
      let status := ((session.perform .load).run disk).1.1
      let read := disk.read session.project.documentPath
      (status = .loaded .missing ↔ read = .error .noSuchFile) ∧
      (status = .loaded .unreadable ↔ ∃ failure, failure ≠ .noSuchFile ∧ read = .error failure) ∧
      (status = .loaded .unparsable ↔
        ∃ bytes complaint, read = .ok bytes ∧ Document.ofBytes bytes = .error complaint)) ∧
    ∀ change reply left, (session.perform (.change change)).MayReturn (reply, left) →
      ∀ e, reply.error? = some e ↔
        ∃ refusal, e = .edit refusal ∧ change.Refused session.store refusal := by
  simp only [perform_eq_obey]
  refine ⟨fun _ => trivial, fun command reply left step => obey_failed step, fun command h =>
    ⟨onlyLooks_obey h, fun disk => (onlyLooks_obey h).run_snd disk⟩, rescan_fails_iff, load_status,
    fun change reply left step e => ?_⟩
  obtain ⟨outcome, returned, h⟩ := Program.mayReturn_bind_iff.1 step
  constructor
  · intro ended
    cases outcome with
    | ok changed =>
      cases Program.mayReturn_pure_iff.1 h
      cases ended
    | error e' =>
      cases Program.mayReturn_pure_iff.1 h
      cases ended
      exact refused_of_change returned
  · rintro ⟨refusal, rfl, refused⟩
    rw [change_of_refused refused] at returned
    cases Program.mayReturn_pure_iff.1 returned
    cases Program.mayReturn_pure_iff.1 h
    rfl

/-- A document that breaks off after values that could be used. -/
def brokenOff : List UInt8 := Text.toBytes
  "\x7b\"variables\": [\"ui_a\"], \"values\": \x7b\"ui_a_name\": \"Start\", \"ui_a_pro\": true, "

def brokenOffDisk : Disk :=
  ⟨Std.ExtTreeMap.empty.insert ["ui_binding.json"] (.file brokenOff), []⟩

/-- A session with one entry. -/
def oneEntry : Session where
  project := {}
  table := .standard
  store := .ofCalls [.insert ⟨"ui_a", "A", .button, .clicked, false, false, false⟩]
  notes := ⟨["kept"]⟩
  lastScan := ⟨1, 1, 0, 0, 0⟩

theorem failed_command_changes_nothing_broken_off :
    (oneEntry.perform .load).run brokenOffDisk = ((.loaded .unparsable, oneEntry), brokenOffDisk) ∧
    ∃ reply, ((oneEntry.perform (.change (.edit "ui_gone" "type" "BUTTON"))).run brokenOffDisk).1 =
        (reply, oneEntry) ∧
      reply.error? = some (.edit (.unknownControlType "BUTTON")) := by
  obtain ⟨_, unchanged, untouched, _, status, refused⟩ := failed_command_changes_nothing oneEntry
  constructor
  · have read : brokenOffDisk.read oneEntry.project.documentPath = .ok brokenOff := by
      decide +kernel
    have malformed : (Document.ofBytes brokenOff).toOption = none := by decide +kernel
    cases outcome : Document.ofBytes brokenOff with
    | ok document => rw [outcome] at malformed; cases malformed
    | error complaint =>
      have replied := (status brokenOffDisk).2.2.2 ⟨_, _, read, outcome⟩
      have kept := (unchanged .load _ _ (Program.mayReturn_run _ brokenOffDisk)).1
        (congrArg Reply.failed replied)
      exact Prod.ext (Prod.ext replied kept) ((untouched .load (by simp)).2 brokenOffDisk)
  · have step := Program.mayReturn_run
      (oneEntry.perform (.change (.edit "ui_gone" "type" "BUTTON"))) brokenOffDisk
    have ended := (refused _ _ _ step _).2 ⟨.unknownControlType "BUTTON", rfl,
      .value (by decide) (.controlType fun t => by cases t <;> decide)⟩
    exact ⟨_, Prod.ext rfl ((unchanged _ _ _ step).1 (failed_of_error ended)), ended⟩

end Session

end WidgetBindings
