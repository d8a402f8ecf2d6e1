import ClangAccess.Program
import ClangAccess.Workspace
import ClangAccess.Proofs.Borrowing
import ClangAccess.Proofs.Lifetime
import ClangAccess.Proofs.Accounting
import ClangAccess.Proofs.ParseRun
import ClangAccess.Proofs.Opening
import ClangAccess.Proofs.ParseStages
import ClangAccess.Proofs.ReleaseBalance
import ClangAccess.Proofs.ConfigureOnce
import ClangAccess.Proofs.SearchOrder
import ClangAccess.Proofs.OpenedOnce
import ClangAccess.Proofs.FirstLine
import ClangAccess.Proofs.Origin
import ClangAccess.Proofs.LockStep
import ClangAccess.Proofs.Utf8Encoding
import ClangAccess.Proofs.Utf8Reading
import ClangAccess.Proofs.Conversion
import ClangAccess.Proofs.CallDiscipline
import ClangAccess.Proofs.ParsePrinted
import ClangAccess.Proofs.ArgumentReading
import ClangAccess.Proofs.ClangArguments
import ClangAccess.Proofs.GivenDirectory
import ClangAccess.Proofs.FilledLine
import ClangAccess.Proofs.Verbosity
import ClangAccess.Proofs.ConfigOutput
import ClangAccess.Proofs.LossyText
import ClangAccess.Proofs.ReportedDirectory
import ClangAccess.Proofs.ReportLines
import ClangAccess.Proofs.ToolOutcome
import ClangAccess.Proofs.Overrides
import ClangAccess.Proofs.LexicalPath
import ClangAccess.Proofs.CanonicalPath
import ClangAccess.Proofs.DriverDirectory
import ClangAccess.Proofs.AbsentSource
import ClangAccess.Proofs.OptionGroup
import ClangAccess.Proofs.OptionOrder
import ClangAccess.Proofs.JsonText
import ClangAccess.Proofs.ToolchainJson
import ClangAccess.Proofs.ProgramRelease
import ClangAccess.Proofs.EditText
