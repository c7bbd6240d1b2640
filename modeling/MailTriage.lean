import MailTriage.Mailbox.Authorization
import MailTriage.Main
import MailTriage.Proofs.Backup
import MailTriage.Proofs.CommandLine.Once
import MailTriage.Proofs.CommandLine.Trial
import MailTriage.Proofs.Store.Replacement
import MailTriage.Proofs.Store.Steady
import MailTriage.Proofs.Triage.Containment
import MailTriage.Proofs.Triage.Counters
import MailTriage.Proofs.Triage.Interchange
import MailTriage.Proofs.Triage.Probe
import MailTriage.Proofs.Store.Counters
import MailTriage.Proofs.Triage.Custody
import MailTriage.Proofs.Triage.Interleaving
import MailTriage.Proofs.Pattern.Case
import MailTriage.Proofs.Pattern.Literal
import MailTriage.Proofs.Action.Faults
import MailTriage.Proofs.Form.Explained
import MailTriage.Proofs.Validation
import MailTriage.Proofs.Store.Log
import MailTriage.Proofs.Store.Deeds
import MailTriage.Proofs.Office.Failure
import MailTriage.Proofs.Triage.Opening
import MailTriage.Proofs.Script.Containment
import MailTriage.Proofs.Action.Frame
import MailTriage.Proofs.Action.Opened
import MailTriage.Proofs.Matching.Combination
import MailTriage.Proofs.Matching.Absence
import MailTriage.Proofs.Template.Fallback
import MailTriage.Proofs.Link.EmailAddress
import MailTriage.Proofs.Link.Distinct
import MailTriage.Proofs.Mailbox.Pagination
import MailTriage.Proofs.Store.Update
import MailTriage.Proofs.Backup.Acceptance
import MailTriage.Proofs.Mailbox.Body
import MailTriage.Proofs.Template.Path
import MailTriage.Proofs.Mailbox.Labels
