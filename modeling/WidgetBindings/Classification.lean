import WidgetBindings.Declaration
import WidgetBindings.PrefixTable
import WidgetBindings.Text.Lowercase

/-!
# Classification

What a declared symbol becomes. A constant prefix is taken off its name once; the three characters
that follow are looked up in the prefix table, and what remains is the name to display. A symbol
whose prefix is unknown is turned down, or becomes a label when all symbols are to be accepted.
-/

namespace WidgetBindings

/-- What a declared symbol becomes. -/
inductive Classification
  /-- Its prefix is in the table. -/
  | mapped (entry : Entry)
  /-- Its prefix is unknown, and all symbols are accepted. -/
  | fallback (entry : Entry)
  /-- Its prefix is unknown. -/
  | rejected (strippedName : String)
  deriving DecidableEq, Repr

def Classification.entry? : Classification → Option Entry
  | .mapped entry | .fallback entry => some entry
  | .rejected _ => none

/-- The rules by which symbols are classified. -/
structure Classifier where
  table : PrefixTable
  constantPrefix : String
  acceptAll : Bool

namespace Classifier

/-- The identifier without the constant prefix, if it starts with it. -/
def strip (rules : Classifier) (identifier : String) : List Char :=
  (Text.after? rules.constantPrefix.toList identifier.toList).getD identifier.toList

/-- The defaults that the first three characters of a stripped name stand for. -/
def mapping? (rules : Classifier) (stripped : List Char) : Option Mapping :=
  if prefixLength ≤ stripped.length then
    rules.table.lookup? (String.ofList (stripped.take prefixLength))
  else none

/-- The name to display: what follows the prefix and any underscores, in lower case. -/
def displayName (stripped : List Char) : String :=
  String.ofList (Text.lowercase ((stripped.drop prefixLength).dropWhile (· = '_')))

def classify (rules : Classifier) (identifier : String) : Classification :=
  let stripped := rules.strip identifier
  match rules.mapping? stripped with
  | some mapping => .mapped (.ofMapping identifier (displayName stripped) mapping)
  | none =>
    if rules.acceptAll then
      .fallback (.ofMapping identifier (String.ofList (Text.lowercase stripped)) .fallback)
    else .rejected (String.ofList stripped)

end Classifier

end WidgetBindings
