import PageBuilder.Main
import PageBuilder.Editing.Operation
import PageBuilder.Render.Preview
import PageBuilder.Proofs.Preservation
import PageBuilder.Proofs.UndoRedo
import PageBuilder.Proofs.JsonText
import PageBuilder.Proofs.Records
import PageBuilder.Proofs.PageForm
import PageBuilder.Proofs.Interchange
import PageBuilder.Proofs.Files
import PageBuilder.Proofs.DataFiles
import PageBuilder.Proofs.Recovery
import PageBuilder.Proofs.Mirror
import PageBuilder.Proofs.Ids
import PageBuilder.Proofs.FreshIds
import PageBuilder.Proofs.Timeline
import PageBuilder.Proofs.Selection
import PageBuilder.Proofs.Declarations
import PageBuilder.Proofs.Fragments
import PageBuilder.Proofs.Agreement
import PageBuilder.Proofs.MarkupSafety
import PageBuilder.Proofs.Lines
import PageBuilder.Proofs.Blocks
import PageBuilder.Proofs.Labels
import PageBuilder.Proofs.Rules
import PageBuilder.Proofs.Snapshots
import PageBuilder.Proofs.Replies
import PageBuilder.Proofs.Polling
import PageBuilder.Proofs.Refusals
import PageBuilder.Proofs.Targets
import PageBuilder.Proofs.Addresses
import PageBuilder.Proofs.Creation
import PageBuilder.Proofs.Restatement
import PageBuilder.Proofs.Dragging
import PageBuilder.Proofs.Copies
import PageBuilder.Proofs.Patches
import PageBuilder.Proofs.BrandSync
import PageBuilder.Proofs.Unescaping
import PageBuilder.Proofs.LastSaves
import PageBuilder.Proofs.Selectors
import PageBuilder.Proofs.Overhauls
import PageBuilder.Proofs.Keywords
import PageBuilder.Proofs.Paints
import PageBuilder.Proofs.ClassTokens
import PageBuilder.Proofs.FreeText
import PageBuilder.Proofs.Slugs
