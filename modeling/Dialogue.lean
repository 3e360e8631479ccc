import Dialogue.Main
import Dialogue.Proofs.Agreement
import Dialogue.Proofs.Answers
import Dialogue.Proofs.Awaiting
import Dialogue.Proofs.Blocks
import Dialogue.Proofs.Failures
import Dialogue.Proofs.Limits
import Dialogue.Proofs.Loading
import Dialogue.Proofs.Lookup
import Dialogue.Proofs.Presentation
import Dialogue.Proofs.Results
import Dialogue.Proofs.Turns
import Dialogue.Proofs.Walks
import Dialogue.Proofs.Dictionary
import Dialogue.Proofs.Writes
import Dialogue.Proofs.Spared
import Dialogue.Proofs.IdleQueries
import Dialogue.Proofs.Json.Layout
import Dialogue.Proofs.Json.Reading
import Dialogue.Proofs.StoredValues
import Dialogue.Proofs.Reopening
import Dialogue.Proofs.Rollback
import Dialogue.Proofs.Json.Records
import Dialogue.Proofs.Rejections
import Dialogue.Proofs.SequenceDocuments
import Dialogue.Proofs.Condition.Splitting
import Dialogue.Proofs.Text.Trimming
import Dialogue.Proofs.Condition.Comparisons
import Dialogue.Proofs.Condition.Spelling
import Dialogue.Proofs.Paths
import Dialogue.Proofs.Loops
import Dialogue.Proofs.Problems
import Dialogue.Proofs.Branches
import Dialogue.Proofs.Jumps
import Dialogue.Proofs.Condition.Evaluation
import Dialogue.Proofs.Condition.Numbers
import Dialogue.Proofs.Agenda
import Dialogue.Proofs.Condition.Dates
import Dialogue.Proofs.Condition.Joining
import Dialogue.Proofs.Condition.Cuts
import Dialogue.Proofs.Counters
import Dialogue.Proofs.Independence
import Dialogue.Proofs.Placeholders
import Dialogue.Proofs.AuthoredValues
import Dialogue.Proofs.Rendering
import Dialogue.Proofs.Levels
import Dialogue.Proofs.KeyFiles
import Dialogue.Proofs.Checking
