import TagEdit.Main
import TagEdit.Proofs.Accounting
import TagEdit.Proofs.CaseSpans
import TagEdit.Proofs.Chaining
import TagEdit.Proofs.CommandOrder
import TagEdit.Proofs.Delimiters
import TagEdit.Proofs.Discovery
import TagEdit.Proofs.DryRun
import TagEdit.Proofs.ErrorPlaces
import TagEdit.Proofs.ExitStatus
import TagEdit.Proofs.FieldMap
import TagEdit.Proofs.FileEdit
import TagEdit.Proofs.FirstFault
import TagEdit.Proofs.Independence
import TagEdit.Proofs.Joining
import TagEdit.Proofs.Leftovers
import TagEdit.Proofs.Legibility
import TagEdit.Proofs.Lengths
import TagEdit.Proofs.LowerSpans
import TagEdit.Proofs.Mentions
import TagEdit.Proofs.NumericOrder
import TagEdit.Proofs.Prefixing
import TagEdit.Proofs.Printable
import TagEdit.Proofs.Saving
import TagEdit.Proofs.Settling
import TagEdit.Proofs.Spacing
import TagEdit.Proofs.Spelling
import TagEdit.Proofs.Switches
import TagEdit.Proofs.Templates
import TagEdit.Proofs.Trace
import TagEdit.Proofs.Warnings
import TagEdit.Proofs.WholeNumbers
