import WidgetBindings.Replacement
import WidgetBindings.Source
import WidgetBindings.Text.Bytes

/-!
# Saving the generated source

A source replaces the one that was saved before.
-/

namespace WidgetBindings.Source

open Program

/-- Makes the source of a store and saves it at a path. -/
def save (store : Store) (options : Options) (path : String) :
    Program (Except WriteError String) := do
  let source := text store options
  match ← replaceFile path (Text.toBytes source) with
  | .error e => pure (.error e)
  | .ok () =>
    let entries := store.toList
    report (.sourceWritten path (entries.countP (·.produce)) (entries.countP (·.consume))
      (entries.countP (·.group)))
    pure (.ok source)

def failureMessage (e : WriteError) : String := s!"failed to write generated source: {e.message}"

end WidgetBindings.Source
