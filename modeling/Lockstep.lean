import Lockstep.Abort
import Lockstep.Bytes.Basic
import Lockstep.Bytes.Hex
import Lockstep.CommandLine
import Lockstep.Curve.Der
import Lockstep.Curve.Ecdsa
import Lockstep.Curve.Key
import Lockstep.Curve.Point
import Lockstep.Debugger.Breakpoint
import Lockstep.Debugger.Report
import Lockstep.Debugger.Snapshot
import Lockstep.Debugger.Store
import Lockstep.Decimal.Double
import Lockstep.Decimal.Integer
import Lockstep.Digest
import Lockstep.Digest.Block
import Lockstep.Digest.Ripemd160
import Lockstep.Digest.Sha1
import Lockstep.Digest.Sha256
import Lockstep.Json
import Lockstep.Json.Reader
import Lockstep.Machine
import Lockstep.Machine.Arithmetic
import Lockstep.Machine.Conditional
import Lockstep.Machine.Fault
import Lockstep.Machine.Operation
import Lockstep.Machine.Rearrange
import Lockstep.Machine.Signing
import Lockstep.Machine.Splice
import Lockstep.Machine.Stacks
import Lockstep.Main
import Lockstep.Position
import Lockstep.Proofs.BranchNesting
import Lockstep.Proofs.CurveGroup
import Lockstep.Proofs.DataLength
import Lockstep.Proofs.DebuggerSession
import Lockstep.Proofs.DocumentReadBack
import Lockstep.Proofs.DocumentText
import Lockstep.Proofs.FormattedText
import Lockstep.Proofs.HexText
import Lockstep.Proofs.InputVerification
import Lockstep.Proofs.JsonReadBack
import Lockstep.Proofs.JsonScalars
import Lockstep.Proofs.KeyHashLock
import Lockstep.Proofs.LineComposition
import Lockstep.Proofs.LongNumbers
import Lockstep.Proofs.MachineRuns
import Lockstep.Proofs.MarkerPauses
import Lockstep.Proofs.NumberCoding
import Lockstep.Proofs.OpcodeTable
import Lockstep.Proofs.ParsedInstructions
import Lockstep.Proofs.PrimeModuli
import Lockstep.Proofs.ReaderAgreement
import Lockstep.Proofs.RecordedFaults
import Lockstep.Proofs.ScriptExecution
import Lockstep.Proofs.SignatureVerdict
import Lockstep.Proofs.SignedPayment
import Lockstep.Proofs.SigningPreimage
import Lockstep.Proofs.StructuredConditionals
import Lockstep.Proofs.TextFields
import Lockstep.Proofs.ValueBalance
import Lockstep.Proofs.WellFormedPrograms
import Lockstep.Script.Assembly
import Lockstep.Script.Instruction
import Lockstep.Script.Number
import Lockstep.Script.Opcode
import Lockstep.Script.ParseError
import Lockstep.Text.Blank
import Lockstep.Text.CodePoints
import Lockstep.Text.DecimalDigit
import Lockstep.Text.Printable
import Lockstep.Text.Quoted
import Lockstep.Text.UpperCase
import Lockstep.Text.Utf8
import Lockstep.Transaction.Basic
import Lockstep.Transaction.Document
import Lockstep.Transaction.Sighash
import Lockstep.Transaction.Validity
import Lockstep.Wallet.Address
import Lockstep.Wallet.Base58
import Lockstep.Wallet.Payment
import Lockstep.Proofs.BreakpointRuns
import Lockstep.Proofs.InputIndependence
import Lockstep.Proofs.SnapshotInvariant
import Lockstep.Proofs.StackFrame
import Lockstep.Proofs.CommandOutput
import Lockstep.Proofs.InterruptedSessions
import Lockstep.Proofs.KeyMatching
import Lockstep.Proofs.NumericInstructions
import Lockstep.Proofs.RunCommands
import Lockstep.Proofs.FixedWidthNumbers
import Lockstep.Proofs.Base58RoundTrip
import Lockstep.Proofs.AddressTexts
import Lockstep.Proofs.SignMagnitude
import Lockstep.Proofs.NumberLiterals
import Lockstep.Proofs.DerivedRearrangements
