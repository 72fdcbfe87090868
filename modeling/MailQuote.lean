import MailQuote.Proofs.Forwards
import MailQuote.Proofs.Grounds
import MailQuote.Proofs.Json
import MailQuote.Proofs.Label
import MailQuote.Proofs.Removal.Stable
import MailQuote.Proofs.Scan.LineEnd
import MailQuote.Proofs.Scan.Slices
import MailQuote.Proofs.Selection
