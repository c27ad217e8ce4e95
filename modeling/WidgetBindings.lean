import WidgetBindings.Main
import WidgetBindings.Proofs.Constructors
import WidgetBindings.Proofs.Declarations
import WidgetBindings.Proofs.StrictModule
import WidgetBindings.Proofs.Reordering
import WidgetBindings.Proofs.Pascal
import WidgetBindings.Proofs.ObjectTypes
import WidgetBindings.Proofs.Identifier
import WidgetBindings.Proofs.ImplBlock
import WidgetBindings.Proofs.Legality
import WidgetBindings.Proofs.ReadingBack
import WidgetBindings.Proofs.Sessions
import WidgetBindings.Proofs.Arguments
import WidgetBindings.Proofs.Files
import WidgetBindings.Proofs.Runs
import WidgetBindings.Proofs.Verbosity
import WidgetBindings.Proofs.Overlaps
import WidgetBindings.Proofs.Regrouping
import WidgetBindings.Proofs.MethodText
import WidgetBindings.Proofs.ReadingWrappers
import WidgetBindings.Proofs.Listing
import WidgetBindings.Proofs.Relabelling
import WidgetBindings.Proofs.Reports
import WidgetBindings.Proofs.Nesting
import WidgetBindings.Proofs.Parameters
import WidgetBindings.Proofs.CreatePattern
import WidgetBindings.Proofs.Redeclarations
import WidgetBindings.Proofs.OptionOrder
