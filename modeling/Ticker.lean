import Ticker.Verdict
import Ticker.Guide
import Ticker.CommandLine.Outcome
import Ticker.Main
import Ticker.Proofs.TextLaws
import Ticker.Proofs.CodeLaws
import Ticker.Proofs.DetectionLaws
import Ticker.Proofs.Hints
import Ticker.Proofs.NormalForms
import Ticker.Proofs.Formatting
import Ticker.Proofs.Causes
import Ticker.Proofs.Alike
import Ticker.Proofs.CaseFolding
import Ticker.Proofs.Separators
import Ticker.Proofs.MessageLaws
import Ticker.Proofs.Payloads
import Ticker.Proofs.TableLines
import Ticker.Proofs.Routes
import Ticker.Proofs.Readings
import Ticker.Proofs.Batches
import Ticker.Proofs.DisplayLanguage
import Ticker.Proofs.TableOutput
import Ticker.Proofs.Partition
import Ticker.Proofs.Spellings
import Ticker.Proofs.HongKongNumbers
import Ticker.Proofs.BoardReports
import Ticker.Proofs.LeadingBytes
import Ticker.Proofs.Names
