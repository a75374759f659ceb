import MarkupAudit.Audit.Assertion
import MarkupAudit.Batch.Auditor
import MarkupAudit.Catalogue
import MarkupAudit.Document.Walk
import MarkupAudit.Logging.Basic
import MarkupAudit.Proofs.Audit.Chunking
import MarkupAudit.Proofs.Audit.Findings
import MarkupAudit.Proofs.Audit.Order
import MarkupAudit.Proofs.Audit.Scan
import MarkupAudit.Proofs.Batch.Accounting
import MarkupAudit.Proofs.Batch.History
import MarkupAudit.Proofs.Build.Fixpoint
import MarkupAudit.Proofs.Build.Links
import MarkupAudit.Proofs.Build.Nesting
import MarkupAudit.Proofs.Build.Omission
import MarkupAudit.Proofs.Build.Sequence
import MarkupAudit.Proofs.Build.Stack
import MarkupAudit.Proofs.Faults.Catalogue
import MarkupAudit.Proofs.Format.Email
import MarkupAudit.Proofs.Format.Phone
import MarkupAudit.Report.Data
import MarkupAudit.Report.Wording
import MarkupAudit.Rule.Draft
import MarkupAudit.Rule.Selection
import MarkupAudit.Settings.Overlay
import MarkupAudit.Settings.Update
import MarkupAudit.Proofs.Settings.Update
import MarkupAudit.Proofs.Build.Items
import MarkupAudit.Proofs.Markup.Numerals
import MarkupAudit.Proofs.Markup.Refusal
import MarkupAudit.Proofs.Report.Delivery
import MarkupAudit.Proofs.Settings.Overlay
import MarkupAudit.Proofs.Settings.Refusal
import MarkupAudit.Proofs.Rules.Direction
import MarkupAudit.Proofs.Rules.Interactive
import MarkupAudit.Proofs.Rules.PresentationTables
import MarkupAudit.Proofs.Rules.TableSections
import MarkupAudit.Proofs.Document.Markup
import MarkupAudit.Proofs.Document.Neighbours
import MarkupAudit.Proofs.Rules.Figcaptions
import MarkupAudit.Proofs.Rules.FirstChild
import MarkupAudit.Proofs.Rules.Labels
import MarkupAudit.Proofs.Batch.Forms
import MarkupAudit.Proofs.Batch.Summary
import MarkupAudit.Proofs.Rule.Selection
import MarkupAudit.Proofs.Settings.Repeat
import MarkupAudit.Proofs.Report.Accounting
import MarkupAudit.Proofs.Document.Walk
