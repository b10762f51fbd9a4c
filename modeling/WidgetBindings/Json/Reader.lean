import WidgetBindings.Json.Token

/-!
# Reading lists, objects and values

Readers of containers leave it to a step what to do with each element or member. What goes wrong
inside a container either has a place of its own, or concerns the container as a whole; the latter
is reported where the reader stands after it has tried to leave the container.
-/

namespace WidgetBindings.Json.Read

/-- What goes wrong inside a container. -/
inductive Trouble
  | fault (fault : Fault)
  /-- A flaw of the container as a whole, found when `unread` was left. -/
  | flaw (cause : Cause) (unread : List UInt8)

/-- A fault with a place, seen from the inside of a container. -/
def inside {α : Type} : Except Fault α → Except Trouble α
  | .ok a => .ok a
  | .error fault => .error (.fault fault)

def closeList (unread : List UInt8) : Except Fault (List UInt8) :=
  match skipBlanks unread with
  | [] => .error (.upon .endInList [])
  | b :: rest =>
    if b = 93 then .ok rest
    else if b = 44 then
      let rest := skipBlanks rest
      .error (.upon (if rest.head? = some 93 then .trailingComma else .trailingCharacters) rest)
    else .error (.upon .trailingCharacters (b :: rest))

/-- What is unread after an attempt to leave a list. -/
def pastList (unread : List UInt8) : List UInt8 :=
  match skipBlanks unread with
  | [] => []
  | b :: rest => if b = 93 then rest else if b = 44 then skipBlanks rest else b :: rest

def closeObject (unread : List UInt8) : Except Fault (List UInt8) :=
  match skipBlanks unread with
  | [] => .error (.upon .endInObject [])
  | b :: rest =>
    if b = 125 then .ok rest
    else .error (.upon (if b = 44 then .trailingComma else .trailingCharacters) (b :: rest))

/-- What is unread after an attempt to leave an object. -/
def pastObject (unread : List UInt8) : List UInt8 :=
  match skipBlanks unread with
  | [] => []
  | b :: rest => if b = 125 then rest else b :: rest

/-- Leaves a list after its elements have been read. -/
def leaveList {α : Type} : Except Trouble (α × List UInt8) → Except Fault (α × List UInt8)
  | .ok (a, unread) => do .ok (a, ← closeList unread)
  | .error (.fault fault) => .error fault
  | .error (.flaw cause unread) => .error (.before cause (pastList unread))

def leaveObject {α : Type} : Except Trouble (α × List UInt8) → Except Fault (α × List UInt8)
  | .ok (a, unread) => do .ok (a, ← closeObject unread)
  | .error (.fault fault) => .error fault
  | .error (.flaw cause unread) => .error (.before cause (pastObject unread))

/-- Goes on to the next element of a list, if there is one. The closing bracket stays unread. -/
def nextElement (first : Bool) (unread : List UInt8) : Except Fault (Bool × List UInt8) :=
  match skipBlanks unread with
  | [] => .error (.upon .endInList [])
  | b :: rest =>
    if b = 93 then .ok (false, b :: rest)
    else if first then .ok (true, b :: rest)
    else if b = 44 then
      match skipBlanks rest with
      | [] => .error (.upon .endInValue [])
      | b :: rest =>
        if b = 93 then .error (.upon .trailingComma (b :: rest)) else .ok (true, b :: rest)
    else .error (.upon .expectedListEnd (b :: rest))

/-- Goes on to the key of the next member of an object, if there is one, and reads its opening
quote. The closing bracket stays unread. -/
def nextKey (first : Bool) (unread : List UInt8) : Except Fault (Bool × List UInt8) :=
  match skipBlanks unread with
  | [] => .error (.upon .endInObject [])
  | b :: rest =>
    if b = 125 then .ok (false, b :: rest)
    else if first then
      if b = 34 then .ok (true, rest) else .error (.upon .keyMustBeString (b :: rest))
    else if b = 44 then
      match skipBlanks rest with
      | [] => .error (.upon .endInValue [])
      | b :: rest =>
        if b = 34 then .ok (true, rest)
        else if b = 125 then .error (.upon .trailingComma (b :: rest))
        else .error (.upon .keyMustBeString (b :: rest))
    else .error (.upon .expectedObjectEnd (b :: rest))

def colon (unread : List UInt8) : Except Fault (List UInt8) :=
  match skipBlanks unread with
  | [] => .error (.upon .endInObject [])
  | b :: rest => if b = 58 then .ok rest else .error (.upon .expectedColon (b :: rest))

/-- Reads the elements of a list up to its closing bracket. At most `fuel` elements are read. -/
def elements {σ : Type} (step : σ → List UInt8 → Except Fault (σ × List UInt8)) :
    (fuel : Nat) → (first : Bool) → σ → List UInt8 → Except Fault (σ × List UInt8)
  | 0, _, _, _ => .error (.before .endInList [])
  | fuel + 1, first, state, unread => do
    let (more, unread) ← nextElement first unread
    if more then
      let (state, unread) ← step state unread
      elements step fuel false state unread
    else .ok (state, unread)

/-- Reads the members of an object up to its closing bracket. The step is given a key and the bytes
that follow it, the colon included. At most `fuel` members are read. -/
def members {σ : Type} (step : σ → String → List UInt8 → Except Trouble (σ × List UInt8)) :
    (fuel : Nat) → (first : Bool) → σ → List UInt8 → Except Trouble (σ × List UInt8)
  | 0, _, _, _ => .error (.fault (.before .endInObject []))
  | fuel + 1, first, state, unread => do
    let (more, unread) ← inside (nextKey first unread)
    if more then
      let (key, unread) ← inside (string unread)
      let (state, unread) ← step state key unread
      members step fuel false state unread
    else .ok (state, unread)

/-- The step that reads a value after its key. -/
def keyed {α σ : Type} (read : List UInt8 → Except Fault (α × List UInt8))
    (set : σ → String → α → σ) (state : σ) (key : String) (unread : List UInt8) :
    Except Trouble (σ × List UInt8) := inside do
  let (a, unread) ← read (← colon unread)
  .ok (set state key a, unread)

/-- Reads a list whose opening bracket has been read, into a state. -/
def list {σ : Type} (step : σ → List UInt8 → Except Fault (σ × List UInt8)) (state : σ)
    (unread : List UInt8) : Except Fault (σ × List UInt8) :=
  leaveList (inside (elements step (unread.length + 1) true state unread))

/-- Reads an object whose opening bracket has been read, into a state. -/
def object {σ : Type} (step : σ → String → List UInt8 → Except Trouble (σ × List UInt8)) (state : σ)
    (unread : List UInt8) : Except Fault (σ × List UInt8) :=
  leaveObject (members step (unread.length + 1) true state unread)

/-- The number of containers that may stand inside one another. -/
def nestingLimit : Nat := 127

/-- Reads a value that holds no further ones and starts with `b`. -/
def scalar (b : UInt8) (unread : List UInt8) : Except Fault (Json × List UInt8) :=
  if b = 110 then do .ok (.null, ← wordNull unread)
  else if b = 116 then do .ok (.bool true, ← wordTrue unread)
  else if b = 102 then do .ok (.bool false, ← wordFalse unread)
  else if b = 45 then do
    let (n, unread) ← number false unread
    .ok (.number n, unread)
  else if isDigit b then do
    let (n, unread) ← number true (b :: unread)
    .ok (.number n, unread)
  else if b = 34 then do
    let (s, unread) ← string unread
    .ok (.string s, unread)
  else .error (.upon .expectedValue (b :: unread))

/-- Reads a value with at most `depth` containers inside one another. -/
def value (depth : Nat) (unread : List UInt8) : Except Fault (Json × List UInt8) :=
  match skipBlanks unread with
  | [] => .error (.upon .endInValue [])
  | b :: rest =>
    if b = 91 then
      match depth with
      | 0 => .error (.upon .nestedTooDeeply (b :: rest))
      | depth + 1 => do
        let (items, unread) ← list (fun items unread => do
          let (item, unread) ← value depth unread
          .ok (items ++ [item], unread)) [] rest
        .ok (.array items, unread)
    else if b = 123 then
      match depth with
      | 0 => .error (.upon .nestedTooDeeply (b :: rest))
      | depth + 1 => do
        let (fields, unread) ←
          object (keyed (value depth) fun fields key v => setMember key v fields) [] rest
        .ok (.object fields, unread)
    else scalar b rest

/-- The fault of finding a value of the wrong kind. A scalar is read first, and its own faults count
before. Brackets are not read. -/
def wrongType {α : Type} (expected : String) (b : UInt8) (unread : List UInt8) : Except Fault α :=
  if b = 91 then .error (.before (.wrongType .list expected) (b :: unread))
  else if b = 123 then .error (.before (.wrongType .map expected) (b :: unread))
  else do
    let (found, unread) ← scalar b unread
    let found := match found with
      | .null | .array _ | .object _ => .null
      | .bool v => .bool v
      | .number v => .number v
      | .string v => .string v
    .error (.before (.wrongType found expected) unread)

def text (expected : String) (unread : List UInt8) : Except Fault (String × List UInt8) :=
  match skipBlanks unread with
  | [] => .error (.upon .endInValue [])
  | b :: rest => if b = 34 then string rest else wrongType expected b rest

def flag (unread : List UInt8) : Except Fault (Bool × List UInt8) :=
  match skipBlanks unread with
  | [] => .error (.upon .endInValue [])
  | b :: rest =>
    if b = 116 then do .ok (true, ← wordTrue rest)
    else if b = 102 then do .ok (false, ← wordFalse rest)
    else wrongType "a boolean" b rest

def nothing (unread : List UInt8) : Except Fault (List UInt8) :=
  match skipBlanks unread with
  | [] => .error (.upon .endInValue [])
  | b :: rest => if b = 110 then wordNull rest else wrongType "unit" b rest

/-- Reads a list where one is expected, element by element. -/
def listOf {α : Type} (depth : Nat) (read : Nat → List UInt8 → Except Fault (α × List UInt8))
    (unread : List UInt8) : Except Fault (List α × List UInt8) :=
  match skipBlanks unread with
  | [] => .error (.upon .endInValue [])
  | b :: rest =>
    if b = 91 then
      match depth with
      | 0 => .error (.upon .nestedTooDeeply (b :: rest))
      | depth + 1 => list (fun items unread => do
          let (item, unread) ← read depth unread
          .ok (items ++ [item], unread)) [] rest
    else wrongType "a sequence" b rest

/-- Reads an object where one is expected, member by member. -/
def mapOf {α σ : Type} (depth : Nat) (read : Nat → List UInt8 → Except Fault (α × List UInt8))
    (set : σ → String → α → σ) (state : σ) (unread : List UInt8) :
    Except Fault (σ × List UInt8) :=
  match skipBlanks unread with
  | [] => .error (.upon .endInValue [])
  | b :: rest =>
    if b = 123 then
      match depth with
      | 0 => .error (.upon .nestedTooDeeply (b :: rest))
      | depth + 1 => object (keyed (read depth) set) state rest
    else wrongType "a map" b rest

/-- Reads a member of a vocabulary: its tag, or an object that holds the tag with nothing. -/
def variant {α : Type} (depth : Nat) (known : List String) (ofTag? : String → Option α)
    (unread : List UInt8) : Except Fault (α × List UInt8) :=
  match skipBlanks unread with
  | [] => .error (.upon .endInValue [])
  | b :: rest =>
    if b = 34 then named (string rest)
    else if b = 123 then
      match depth with
      | 0 => .error (.upon .nestedTooDeeply (b :: rest))
      | _ + 1 => do
        let (a, unread) ← named (text "variant identifier" rest)
        let unread ← nothing (← colon unread)
        match skipBlanks unread with
        | [] => .error (.before .endInObject [])
        | b :: rest =>
          if b = 125 then .ok (a, rest) else .error (.before .expectedValue (b :: rest))
    else .error (.upon .expectedValue (b :: rest))
where
  /-- The member that a tag names. -/
  named : Except Fault (String × List UInt8) → Except Fault (α × List UInt8)
    | .error fault => .error fault
    | .ok (tag, unread) =>
      match ofTag? tag with
      | some a => .ok (a, unread)
      | none => .error (.before (.unknownVariant tag known) unread)

/-- Reads a whole text: one value, with nothing but blanks after it. -/
def all {α : Type} (read : List UInt8 → Except Fault (α × List UInt8)) (bytes : List UInt8) :
    Except Complaint α :=
  let outcome := do
    let (a, unread) ← read bytes
    match skipBlanks unread with
    | [] => .ok a
    | b :: rest => .error (Fault.upon .trailingCharacters (b :: rest))
  outcome.mapError (Fault.within · bytes)

end WidgetBindings.Json.Read
