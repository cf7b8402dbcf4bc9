import Roundtable.Files.Tree
import Roundtable.Main
import Roundtable.Proofs.Journal.ReadBack
import Roundtable.Proofs.Roster.Orderly
import Roundtable.Proofs.Script.Container
import Roundtable.Proofs.Script.Lines
import Roundtable.Proofs.Script.Token.Faults
import Roundtable.Proofs.Script.Transaction
import Roundtable.Proofs.Script.Value.Coherence
import Roundtable.Proofs.Script.Value.ReadBack
import Roundtable.Proofs.Session.Dialogue
import Roundtable.Proofs.Session.Isolation
import Roundtable.Proofs.Session.SavedLog
import Roundtable.Proofs.Session.Truncation
import Roundtable.Proofs.Script.Reach
import Roundtable.Proofs.Script.Value.Listing
import Roundtable.Proofs.Script.Value.Selection
import Roundtable.Proofs.Script.Silence
import Roundtable.Proofs.Script.Assignment
import Roundtable.Proofs.Script.Chain
import Roundtable.Proofs.Script.Repetition
import Roundtable.Proofs.Session.Addressing
