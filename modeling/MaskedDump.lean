import MaskedDump.Main
import MaskedDump.Rehearsal.Session
import MaskedDump.Proofs.Run.Course
import MaskedDump.Proofs.Discovery.Names
import MaskedDump.Proofs.Dump.Blocks
import MaskedDump.Proofs.Dump.Content
import MaskedDump.Proofs.Dump.Extensions
import MaskedDump.Proofs.Dump.Masking
import MaskedDump.Proofs.Recoding.Basic
import MaskedDump.Proofs.Recoding.Scans
import MaskedDump.Proofs.Dump.Coupled
import MaskedDump.Proofs.Dump.Truncation
import MaskedDump.Proofs.Dump.Encoding
import MaskedDump.Proofs.Run.Plan
import MaskedDump.Proofs.Dump.Protocol
import MaskedDump.Proofs.Dump.Delivery
import MaskedDump.Proofs.Dump.FailFast
import MaskedDump.Proofs.Discovery.Statements
import MaskedDump.Proofs.Dump.Reading
import MaskedDump.Proofs.Dump.FileTarget
import MaskedDump.Proofs.Discovery.Filtered
import MaskedDump.Proofs.ExtensionFilter.Comments
import MaskedDump.Proofs.Dump.Classification
import MaskedDump.Proofs.Dump.Literals
import MaskedDump.Proofs.Dump.Messages
import MaskedDump.Proofs.Dump.Scoping
import MaskedDump.Proofs.Program.Outcome
import MaskedDump.Proofs.Dump.Listing
