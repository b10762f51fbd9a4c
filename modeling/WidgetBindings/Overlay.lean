import WidgetBindings.Document

/-!
# Laying a document over a store

Loading a document sets the fields that its keys name, in their order, and leaves the rest of the
store alone. Each key is judged by itself (`Verdict.of`); as identifiers never change, what became
of the keys before does not matter. The operator is told of identifiers that the header no longer
declares, each once, and of values that a field cannot take.
-/

namespace WidgetBindings

/-- What becomes of one key of a document. -/
inductive Verdict
  /-- The key does not end in a suffix. -/
  | withoutSuffix
  /-- The suffix is that of no field. -/
  | unknownField
  /-- There is no entry for the identifier. -/
  | stale (identifier : String)
  /-- The value sets a field. -/
  | applied (identifier : String) (edit : Edit)
  /-- The field cannot take the value. -/
  | rejected
  deriving DecidableEq, Repr

namespace Verdict

/-- The flat value that a JSON value stands for. -/
def flatValue? : Json → Option FieldValue
  | .string value => some (.text value)
  | .bool value => some (.flag value)
  | .null | .number _ | .array _ | .object _ => none

/-- The edit that a JSON value asks for. -/
def edit? (field : Field) (value : Json) : Option Edit :=
  match flatValue? value with
  | some flat => (Edit.ofValue field flat).toOption
  | none => none

/-- The verdict on a key with its value, given which identifiers have entries. -/
def of (present : String → Bool) (key : String) (value : Json) : Verdict :=
  match Document.splitKey? key with
  | none => withoutSuffix
  | some (identifier, suffix) =>
    match Field.ofName suffix with
    | .error _ => unknownField
    | .ok field =>
      if present identifier then
        match edit? field value with
        | some edit => applied identifier edit
        | none => rejected
      else stale identifier

def edits? : Verdict → Option (String × Edit)
  | applied identifier edit => some (identifier, edit)
  | withoutSuffix | unknownField | stale _ | rejected => none

/-- Whether a key does not name a field at all. -/
def isUnknown : Verdict → Bool
  | withoutSuffix | unknownField => true
  | stale _ | applied _ _ | rejected => false

end Verdict

/-- Something the operator is told about a load. -/
inductive Remark
  /-- The identifier has no entry any more. -/
  | stale (identifier : String)
  /-- The field cannot take the value of this key. -/
  | unsupported (key : String) (value : Json)

namespace Remark

def note : Remark → String
  | stale identifier => s!"{identifier} not in current code, skipping"
  | unsupported key value => s!"{key} has unsupported value {value.compact}, skipping"

def staleIdentifier? : Remark → Option String
  | stale identifier => some identifier
  | unsupported _ _ => none

def rejectedKey? : Remark → Option String
  | stale _ => none
  | unsupported key _ => some key

/-- The remarks without those on identifiers that are in `seen` or were remarked on before. -/
def once (seen : List String) : List Remark → List Remark
  | [] => []
  | stale identifier :: rest =>
    if identifier ∈ seen then once seen rest
    else stale identifier :: once (identifier :: seen) rest
  | unsupported key value :: rest => unsupported key value :: once seen rest

end Remark

/-- What a load did. -/
structure LoadSummary where
  applied : Nat
  staleIdentifiers : List String
  rejectedKeys : List String
  unknownKeys : Nat
  deriving DecidableEq, Repr

/-- A key of a document with its value and the verdict on it. -/
structure Judged where
  key : String
  value : Json
  verdict : Verdict

/-- The remark that a key calls for. -/
def Judged.remark? (j : Judged) : Option Remark :=
  match j.verdict with
  | .stale identifier => some (.stale identifier)
  | .rejected => some (.unsupported j.key j.value)
  | .withoutSuffix | .unknownField | .applied _ _ => none

namespace Document

/-- The keys of a document with the verdicts on them. -/
def judge (document : Document) (store : Store) : List Judged :=
  document.values.map fun m => ⟨m.1, m.2, .of store.contains m.1 m.2⟩

/-- The edits that a document makes, in the order of its keys. -/
def edits (document : Document) (store : Store) : List (String × Edit) :=
  (document.judge store).filterMap fun j => j.verdict.edits?

def overlay (document : Document) (store : Store) : Store := store.editAll (document.edits store)

/-- What the operator is told: of the identifiers first, then of the keys. -/
def remarks (document : Document) (store : Store) : List Remark :=
  let gone := document.identifiers.filter fun id => !store.contains id
  Remark.once [] (gone.map .stale ++ (document.judge store).filterMap Judged.remark?)

def notes (document : Document) (store : Store) : List String :=
  (document.remarks store).map Remark.note

def summary (document : Document) (store : Store) : LoadSummary where
  applied := (document.edits store).length
  staleIdentifiers := (document.remarks store).filterMap Remark.staleIdentifier?
  rejectedKeys := (document.remarks store).filterMap Remark.rejectedKey?
  unknownKeys := (document.judge store).countP fun j => j.verdict.isUnknown

end Document

end WidgetBindings
