import CommandSpec.Main
import CommandSpec.Proofs.Report.Alignment
import CommandSpec.Proofs.Report.Journal
import CommandSpec.Proofs.Session.Composition
import CommandSpec.Proofs.Session.ExitCode
import CommandSpec.Proofs.Session.Files
import CommandSpec.Proofs.Session.Golden
import CommandSpec.Proofs.Session.Limits
import CommandSpec.Proofs.Session.Verbosity
import CommandSpec.Proofs.Session.Written
import CommandSpec.Proofs.Report.Readback
import CommandSpec.Proofs.Report.Noise
import CommandSpec.Proofs.Spec.Closing
import CommandSpec.Proofs.Session.StartFailure
import CommandSpec.Proofs.Session.ReadFailure
import CommandSpec.Proofs.Session.Codec
import CommandSpec.Proofs.Session.Layout
import CommandSpec.Proofs.Spec.Complaint
import CommandSpec.Proofs.Session.Diagnostics
import CommandSpec.Proofs.Spec.Classification
import CommandSpec.Proofs.Path
import CommandSpec.Proofs.Session.Label
import CommandSpec.Proofs.Session.Entering
import CommandSpec.Proofs.Session.SelfTest
