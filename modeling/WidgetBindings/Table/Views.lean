import WidgetBindings.PrefixTable
import WidgetBindings.Store
import WidgetBindings.Table.Layout

/-!
# The tables that are shown

The entries of a store, the prefixes of a table, and the two vocabularies.
-/

namespace WidgetBindings.Table

def flagCell (flag : Bool) : String := if flag then "yes" else "-"

/-- The entries of a store. -/
def ofStore (store : Store) : Table where
  columns := [⟨"Symbol", false⟩, ⟨"Name", false⟩, ⟨"Type", false⟩, ⟨"Consume", true⟩,
    ⟨"Produce", true⟩, ⟨"Event", false⟩, ⟨"Group", true⟩]
  rows := store.toList.map fun entry => [entry.identifier, entry.displayName,
    entry.controlType.tag, flagCell entry.consume, flagCell entry.produce, entry.event.tag,
    flagCell entry.group]

/-- The prefixes of a table with what they stand for. -/
def ofPrefixes (table : PrefixTable) : Table where
  columns := [⟨"Prefix", false⟩, ⟨"Control type", false⟩, ⟨"Default event", false⟩]
  rows := table.toList.map fun m => [m.1, m.2.controlType.tag, m.2.event.tag]

/-- The two vocabularies side by side. -/
def vocabulary : Table where
  columns := [⟨"Control types", false⟩, ⟨"Events", false⟩]
  rows := (List.range (max ControlType.all.length EventCode.all.length)).map fun i =>
    [(ControlType.all[i]?.map ControlType.tag).getD "",
      (EventCode.all[i]?.map EventCode.tag).getD ""]

end WidgetBindings.Table
