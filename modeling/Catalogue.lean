import Catalogue.History
import Catalogue.Interleaving
import Catalogue.Main
import Catalogue.Shelf
import Catalogue.Store.Direct
import Catalogue.Repository.InPlace
import Catalogue.Repository.Reviews
import Catalogue.Proofs.Rollback
import Catalogue.Proofs.Opening
import Catalogue.Proofs.Rows
import Catalogue.Proofs.Success
import Catalogue.Proofs.Table
import Catalogue.Proofs.Cascade
import Catalogue.Proofs.Soundness
import Catalogue.Proofs.Deletion
import Catalogue.Proofs.Reading
import Catalogue.Proofs.Answering
import Catalogue.Proofs.Marks
import Catalogue.Proofs.Saving
import Catalogue.Proofs.Revising
import Catalogue.Proofs.Overtaking
import Catalogue.Proofs.Composed
import Catalogue.Proofs.Batch
import Catalogue.Proofs.Neighbours
import Catalogue.Proofs.Patterns
import Catalogue.Proofs.Searching
import Catalogue.Proofs.Windows
import Catalogue.Proofs.Agreement
import Catalogue.Proofs.Paging
import Catalogue.Proofs.Repeats
import Catalogue.Proofs.Resolving
import Catalogue.Proofs.Progress
import Catalogue.Proofs.Verdict
import Catalogue.Proofs.Interrupted
import Catalogue.Calls
import Catalogue.Proofs.Shelf
import Catalogue.Proofs.Shelving
import Catalogue.Proofs.Reshelving
import Catalogue.Proofs.Refinement
import Catalogue.Proofs.Migrating
import Catalogue.Proofs.Readiness
import Catalogue.Proofs.Takeover
import Catalogue.Proofs.Numbering
import Catalogue.Proofs.Logging
import Catalogue.Proofs.Forms
import Catalogue.Proofs.Sorting
import Catalogue.Proofs.Requests
import Catalogue.CommandLine.Conversation
import Catalogue.Proofs.Files
import Catalogue.Proofs.Conversation
import Catalogue.Proofs.Housing
import Catalogue.Proofs.Runs
import Catalogue.Proofs.Damage
import Catalogue.Proofs.Reporting
import Catalogue.Proofs.Resaving
import Catalogue.Proofs.Orphans
import Catalogue.Proofs.Recording
