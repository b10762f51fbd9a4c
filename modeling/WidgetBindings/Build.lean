import WidgetBindings.Classification
import WidgetBindings.Store

/-!
# Building a store from declarations

Declarations are classified in order and the accepted ones become entries. A symbol that is turned
down leaves a note. An identifier that was met before keeps its first entry.
-/

namespace WidgetBindings

/-- How many declarations a scan met, and what became of them. -/
structure ScanSummary where
  declarations : Nat
  mapped : Nat
  fallback : Nat
  rejected : Nat
  duplicates : Nat
  deriving DecidableEq, Repr

def ScanSummary.empty : ScanSummary := ⟨0, 0, 0, 0, 0⟩

/-- A declaration that did not become an entry. -/
inductive Incident
  /-- Its prefix is unknown. -/
  | rejected (declaration : Declaration) (strippedName : String)
  /-- Its identifier was met before. -/
  | repeated (declaration : Declaration)
  deriving DecidableEq, Repr

/-- The note about a declaration that was turned down. -/
def Incident.note? : Incident → Option String
  | .rejected _ strippedName => some s!"'{strippedName}' produce/consume mapping not supported"
  | .repeated _ => none

/-- What a scan has come to. -/
structure Build where
  store : Store
  summary : ScanSummary
  incidents : List Incident

namespace Build

def empty : Build := ⟨.empty, .empty, []⟩

/-- Enters an accepted declaration, or counts it as a repetition. -/
def enter (build : Build) (declaration : Declaration) (entry : Entry) : Build :=
  match build.store.insert entry with
  | .ok store => { build with store }
  | .error _ => { build with
      summary.duplicates := build.summary.duplicates + 1
      incidents := build.incidents ++ [.repeated declaration] }

def add (rules : Classifier) (build : Build) (declaration : Declaration) : Build :=
  let build :=
    { build with summary.declarations := build.summary.declarations + 1 }
  match rules.classify declaration.identifier with
  | .mapped entry =>
    { build with summary.mapped := build.summary.mapped + 1 }.enter declaration entry
  | .fallback entry =>
    { build with summary.fallback := build.summary.fallback + 1 }.enter declaration entry
  | .rejected strippedName => { build with
      summary.rejected := build.summary.rejected + 1
      incidents := build.incidents ++ [.rejected declaration strippedName] }

def ofDeclarations (rules : Classifier) (declarations : List Declaration) : Build :=
  declarations.foldl (add rules) empty

def notes (build : Build) : List String := build.incidents.filterMap Incident.note?

end Build

end WidgetBindings
