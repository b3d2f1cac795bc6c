import TaskMachine.Hash.Fnv
import TaskMachine.Text.Hex
import TaskMachine.Decimal.Binary64
import TaskMachine.Decimal.Digits
import TaskMachine.Decimal.Shortest
import TaskMachine.Decimal.Read
import TaskMachine.Text.Printable
import TaskMachine.Text.GraphemeExtend
import TaskMachine.Text.Quoted
import TaskMachine.Value.Ident
import TaskMachine.Value.Basic
import TaskMachine.Value.Display
import TaskMachine.TaskId
import TaskMachine.Intrinsic.Basic
import TaskMachine.Intrinsic.Pattern
import TaskMachine.Intrinsic.Invoke
import TaskMachine.Instruction.Basic
import TaskMachine.Instruction.Decode
import TaskMachine.Instruction.Text
import TaskMachine.Text.Blank
import TaskMachine.Assembly.Source
import TaskMachine.Assembly.Literal
import TaskMachine.Assembly.Assemble
import TaskMachine.Assembly.Listing
import TaskMachine.Bytecode
import TaskMachine.Compiled.Type
import TaskMachine.Compiled.Builder
import TaskMachine.Config
import TaskMachine.Task.State
import TaskMachine.Fault
import TaskMachine.Frame
import TaskMachine.Task.Basic
import TaskMachine.Task.Snapshot
import TaskMachine.Task.Wire
import TaskMachine.Repository
import TaskMachine.Machine.Exec
import TaskMachine.Machine.Step
import TaskMachine.Machine.Processor
import TaskMachine.Queue
import TaskMachine.Worker
import TaskMachine.Proofs.Machine.Discipline
import TaskMachine.Proofs.Machine.Reachable
import TaskMachine.Proofs.Task.Stacks
import TaskMachine.Proofs.Task.Lifecycle
import TaskMachine.Proofs.Machine.Soundness
import TaskMachine.Proofs.Machine.Raising
import TaskMachine.Proofs.Task.Calls
import TaskMachine.Proofs.Machine.Calls
import TaskMachine.Proofs.Machine.Send
import TaskMachine.Proofs.Task.Addresses
import TaskMachine.Proofs.Machine.Addresses
import TaskMachine.Proofs.Task.Persistence
import TaskMachine.Proofs.Machine.Metering
import TaskMachine.Proofs.Machine.Limits
import TaskMachine.Proofs.Machine.Delivery
import TaskMachine.Proofs.Machine.Resumption
import TaskMachine.Proofs.Worker.Quanta
import TaskMachine.Proofs.Queue.Accounting
import TaskMachine.Proofs.Machine.Finality
import TaskMachine.Proofs.Machine.Verbosity
import TaskMachine.Proofs.Worker.Pool
import TaskMachine.Proofs.Worker.Interleaving
import TaskMachine.Proofs.Worker.Termination
import TaskMachine.Proofs.Assembly.Lexing
import TaskMachine.Proofs.Assembly.Words
import TaskMachine.Proofs.Assembly.Canonical
import TaskMachine.Proofs.Assembly.Readback
import TaskMachine.Proofs.Value.Catalog
import TaskMachine.Proofs.Compiled.Interning
import TaskMachine.Proofs.Compiled.Operands
import TaskMachine.Proofs.Value.Equality
import TaskMachine.Proofs.Value.Pattern
import TaskMachine.Proofs.Intrinsic.Collections
import TaskMachine.Proofs.Machine.StackEffects
import TaskMachine.Proofs.Value.Names
import TaskMachine.Proofs.Hash.Concatenation
