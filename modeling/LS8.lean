import LS8.CommandLine
import LS8.Disk
import LS8.Files
import LS8.Instruction.Decode
import LS8.Machine.Run
import LS8.Machine.Trace
import LS8.Main
import LS8.Program.Listing
import LS8.Program.Source
import LS8.Proofs.Aftermath
import LS8.Proofs.Bracket
import LS8.Proofs.CellsRead
import LS8.Proofs.CycleLimit
import LS8.Proofs.Decoding
import LS8.Proofs.DumpText
import LS8.Proofs.Environment
import LS8.Proofs.Faults
import LS8.Proofs.Grammar
import LS8.Proofs.History
import LS8.Proofs.InstructionSet
import LS8.Proofs.Invocation
import LS8.Proofs.LastComparison
import LS8.Proofs.Levels
import LS8.Proofs.LimitedSink
import LS8.Proofs.ListingText
import LS8.Proofs.MemoryAccess
import LS8.Proofs.Period
import LS8.Proofs.Placement
import LS8.Proofs.PrefixCode
import LS8.Proofs.Reassembly
import LS8.Proofs.Recurrence
import LS8.Proofs.Running
import LS8.Proofs.Seams
import LS8.Proofs.Shifted
import LS8.Proofs.StackDiscipline
import LS8.Proofs.Stepping
import LS8.Proofs.StraightLine
import LS8.Proofs.SweptRange
import LS8.Proofs.Switches
import LS8.Proofs.TimeLimit
import LS8.Proofs.TraceText
import LS8.Proofs.Tracing
import LS8.Proofs.Transcript
import LS8.Proofs.WideArithmetic
import LS8.Session
