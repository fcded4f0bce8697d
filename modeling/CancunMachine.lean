import CancunMachine.Address
import CancunMachine.Bytes
import CancunMachine.Config
import CancunMachine.Deployment
import CancunMachine.Failure
import CancunMachine.Frame
import CancunMachine.Gas
import CancunMachine.Hash
import CancunMachine.Hex
import CancunMachine.Host
import CancunMachine.Instruction.Arithmetic
import CancunMachine.Instruction.Call
import CancunMachine.Instruction.Context
import CancunMachine.Instruction.Dispatch
import CancunMachine.Instruction.Storage
import CancunMachine.Interpreter
import CancunMachine.Json
import CancunMachine.Keccak
import CancunMachine.Machine.Basic
import CancunMachine.Memory
import CancunMachine.Message
import CancunMachine.Opcode
import CancunMachine.Policy
import CancunMachine.Precompile
import CancunMachine.Program.Basic
import CancunMachine.Program.Cache
import CancunMachine.Proofs.Evolution.Basic
import CancunMachine.Proofs.Evolution.Call
import CancunMachine.Proofs.Evolution.Conduct
import CancunMachine.Proofs.Evolution.Destruction
import CancunMachine.Proofs.Evolution.Instruction
import CancunMachine.Proofs.Evolution.Step
import CancunMachine.Proofs.Evolution.Storage
import CancunMachine.Proofs.Gas
import CancunMachine.Proofs.Machine.Ending
import CancunMachine.Proofs.Memory
import CancunMachine.Proofs.Word.Arithmetic
import CancunMachine.Proofs.World.Access
import CancunMachine.Stack
import CancunMachine.Substate
import CancunMachine.Table
import CancunMachine.Transaction
import CancunMachine.Warmth
import CancunMachine.Word.Arithmetic
import CancunMachine.Word.Basic
import CancunMachine.Word.Bitwise
import CancunMachine.Word.Bytes
import CancunMachine.World.Access
import CancunMachine.World.Basic
import CancunMachine.Proofs.World.Header
import CancunMachine.Proofs.Evolution.Child
import CancunMachine.Proofs.Evolution.Dispatch
import CancunMachine.Proofs.Evolution.Frame
import CancunMachine.Proofs.World.Journal
import CancunMachine.Proofs.Rollback
import CancunMachine.Proofs.Static
import CancunMachine.Proofs.Termination
import CancunMachine.Proofs.World.Supply
import CancunMachine.Proofs.Progress
import CancunMachine.Proofs.Evolution.Lasting
import CancunMachine.Proofs.World.Seen
import CancunMachine.Proofs.Conservation
import CancunMachine.Proofs.Ownership
import CancunMachine.Proofs.Permanence
import CancunMachine.Proofs.Evolution.Price
import CancunMachine.Proofs.GasAccounting
import CancunMachine.Proofs.Order.Instruction
import CancunMachine.Proofs.World.Snapshots
import CancunMachine.Proofs.Order.Child
import CancunMachine.Proofs.GasOrder
import CancunMachine.Proofs.Order.Frame
import CancunMachine.Proofs.Program.Starts
import CancunMachine.Proofs.PushData
import CancunMachine.Proofs.Evolution.Aside
import CancunMachine.Proofs.History.Survivors
import CancunMachine.Proofs.History.Deed
import CancunMachine.Proofs.History.Record
import CancunMachine.Proofs.History.Faithful
import CancunMachine.Proofs.SurvivingWrites
import CancunMachine.Proofs.Prewarming
import CancunMachine.Proofs.Evolution.Moments
import CancunMachine.Proofs.Lockstep
import CancunMachine.Proofs.MemoryGas.Price
import CancunMachine.Proofs.MemoryGas.Within
import CancunMachine.Proofs.MemoryGas.Payment
import CancunMachine.Proofs.MemoryGas.Instruction
import CancunMachine.Proofs.MemoryGas.Child
import CancunMachine.Proofs.PaidMemory
import CancunMachine.Proofs.Refund.Clearing
import CancunMachine.Proofs.Refund.Course
import CancunMachine.Proofs.RefundFloor
import CancunMachine.Proofs.Toll.Payment
import CancunMachine.Proofs.Toll.Instruction
import CancunMachine.Proofs.Toll.Ledger
import CancunMachine.Proofs.Toll.Course
import CancunMachine.Proofs.ColdPrice
import CancunMachine.Proofs.Order.Queue
import CancunMachine.Proofs.Order.Return
import CancunMachine.Proofs.Order.Frugality
import CancunMachine.Proofs.QueuedHalts
import CancunMachine.Proofs.Chronicle
import CancunMachine.Proofs.StickyHalts
import CancunMachine.Proofs.Likeness.Machine
import CancunMachine.Proofs.Likeness.Instruction
import CancunMachine.Proofs.Likeness.Child
import CancunMachine.Proofs.Likeness.Frame
import CancunMachine.Proofs.Transparency
import CancunMachine.Proofs.Layers.Instruction
import CancunMachine.Proofs.Layers.Frame
import CancunMachine.Proofs.AbortedMessages
import CancunMachine.Proofs.Replay
import CancunMachine.Proofs.Backups
import CancunMachine.Proofs.WarmOrder
import CancunMachine.Proofs.Program.Cache
import CancunMachine.Proofs.Program.Soundness
import CancunMachine.Proofs.Program.Interning
import CancunMachine.Proofs.Tracing.Quiet
import CancunMachine.Proofs.Tracing.Instruction
import CancunMachine.Proofs.Tracing.Child
import CancunMachine.Proofs.Tracing.Frame
import CancunMachine.Proofs.Tracing.Access
import CancunMachine.Proofs.Tracing.Story
import CancunMachine.Proofs.Tracing.Settled
import CancunMachine.Proofs.Tracing.Message
import CancunMachine.Proofs.Nesting
import CancunMachine.Proofs.World.Initials
import CancunMachine.Proofs.ZeroFilledMemory
import CancunMachine.Proofs.StackDiscipline
import CancunMachine.Proofs.CallerFrame
import CancunMachine.Proofs.Word.Shift
import CancunMachine.Proofs.Word.Bits
import CancunMachine.Proofs.Word.Product
import CancunMachine.Proofs.Word.Quotient
import CancunMachine.Proofs.Word.Signed
import CancunMachine.Proofs.Word.Modular
import CancunMachine.Stack.Columns
import CancunMachine.Proofs.ExactArithmetic
import CancunMachine.Proofs.BoundedStack
import CancunMachine.Proofs.Word.Order
import CancunMachine.Proofs.Word.Places
import CancunMachine.Proofs.JumpTargets
import CancunMachine.Proofs.Refund.Net
import CancunMachine.Proofs.NetMetering
import CancunMachine.Proofs.Transfers
import CancunMachine.Proofs.Word.Digits
import CancunMachine.Proofs.Machine.Operands
import CancunMachine.Proofs.Memory.Copied
import CancunMachine.Proofs.Copies
import CancunMachine.Proofs.RecentBlocks
import CancunMachine.Proofs.Deployment
import CancunMachine.Proofs.Immediates
import CancunMachine.Proofs.MemoryGrowth
import CancunMachine.Proofs.CompositeCosts
import CancunMachine.Proofs.Conversions
import CancunMachine.Proofs.BitSizes
