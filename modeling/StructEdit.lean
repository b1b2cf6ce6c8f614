import StructEdit.Main
import StructEdit.Menu.Command
import StructEdit.Proofs.Config.Omissions
import StructEdit.Proofs.Config.Saving
import StructEdit.Proofs.Config.Validity
import StructEdit.Proofs.Key.Grammar
import StructEdit.Proofs.Key.Spacing
import StructEdit.Proofs.Menu.Available
import StructEdit.Proofs.Menu.Chain
import StructEdit.Proofs.Menu.Changes
import StructEdit.Proofs.Menu.Circling
import StructEdit.Proofs.Menu.NormalForm
import StructEdit.Proofs.Menu.Pruning
import StructEdit.Proofs.Menu.Repeats
import StructEdit.Proofs.Menu.Returning
import StructEdit.Proofs.Menu.Superseding
import StructEdit.Proofs.Resolver.Characters
import StructEdit.Proofs.Resolver.Completion
import StructEdit.Proofs.Resolver.MenuKeys
import StructEdit.Proofs.Resolver.Payloads
import StructEdit.Proofs.Session.Inserts
import StructEdit.Proofs.Session.Matches
import StructEdit.Proofs.Session.Mouse
import StructEdit.Proofs.Session.Provenance
import StructEdit.Proofs.Session.Suggestions
import StructEdit.Proofs.Text.Segments
import StructEdit.Proofs.Wire.Actions
