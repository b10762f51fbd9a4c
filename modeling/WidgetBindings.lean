import WidgetBindings.CommandLine.World
import WidgetBindings.Main
import WidgetBindings.Proofs.Build.Comparison
import WidgetBindings.Proofs.Classification.Offsets
import WidgetBindings.Proofs.CommandLine.Editing
import WidgetBindings.Proofs.CommandLine.Listing
import WidgetBindings.Proofs.Declaration.Grammar
import WidgetBindings.Proofs.Declaration.LineByLine
import WidgetBindings.Proofs.Document.Encoding
import WidgetBindings.Proofs.Overlay.Accounting
import WidgetBindings.Proofs.Overlay.Cells
import WidgetBindings.Proofs.Overlay.LastWriter
import WidgetBindings.Proofs.Path.Siblings
import WidgetBindings.Proofs.PrefixTable.Lengths
import WidgetBindings.Proofs.Session.Invariant
import WidgetBindings.Proofs.Session.NoteLines
import WidgetBindings.Proofs.Session.Reopening
import WidgetBindings.Proofs.Session.Saving
import WidgetBindings.Proofs.Session.Scanning
import WidgetBindings.Proofs.Session.Setting
import WidgetBindings.Proofs.Source.Placeholders
import WidgetBindings.Proofs.Source.Reading
import WidgetBindings.Proofs.Store.Parts
