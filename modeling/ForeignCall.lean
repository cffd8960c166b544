import ForeignCall.Annotation
import ForeignCall.Binding.Dispatch
import ForeignCall.Binding.Library
import ForeignCall.Binding.Loader
import ForeignCall.Binding.Symbols
import ForeignCall.Binding.Variable
import ForeignCall.Bytes
import ForeignCall.CType
import ForeignCall.CallInterface
import ForeignCall.Callable.Basic
import ForeignCall.Callable.Rule
import ForeignCall.Closure.Entry
import ForeignCall.Closure.Magazine
import ForeignCall.Closure.Manager
import ForeignCall.Closure.Pool
import ForeignCall.Closure.Shape
import ForeignCall.Config.Basic
import ForeignCall.Config.Environment
import ForeignCall.Converter.Basic
import ForeignCall.Converter.Enumeration
import ForeignCall.Converter.Mapper
import ForeignCall.Converter.Rule
import ForeignCall.Declaration
import ForeignCall.Elements
import ForeignCall.EntryPoint
import ForeignCall.Fault
import ForeignCall.HostType
import ForeignCall.Ieee
import ForeignCall.Invocation
import ForeignCall.Journal
import ForeignCall.Locking
import ForeignCall.Lookup
import ForeignCall.Lowering
import ForeignCall.Memory
import ForeignCall.Native.Buffers
import ForeignCall.Native.Callers
import ForeignCall.Native.Catalog
import ForeignCall.Native.Function
import ForeignCall.Native.Numbers
import ForeignCall.Notation.Code
import ForeignCall.Notation.Converters
import ForeignCall.Notation.Reading
import ForeignCall.Notation.Reports
import ForeignCall.Notation.Session
import ForeignCall.Notation.Tree
import ForeignCall.Notation.Types
import ForeignCall.Notation.Values
import ForeignCall.Numeric
import ForeignCall.Pages
import ForeignCall.Passage
import ForeignCall.Registers
import ForeignCall.Signature
import ForeignCall.Slot
import ForeignCall.Store
import ForeignCall.Strategy.Basic
import ForeignCall.Strategy.Selection
import ForeignCall.Stub.Assembly
import ForeignCall.Stub.Attachment
import ForeignCall.Text.Blank
import ForeignCall.Text.Encoding
import ForeignCall.Text.Hexadecimal
import ForeignCall.Text.Quoted
import ForeignCall.Toml.Document
import ForeignCall.Toml.Number
import ForeignCall.Toml.Reader
import ForeignCall.Toml.Table
import ForeignCall.Toml.Text
import ForeignCall.Transfer
import ForeignCall.Value
import ForeignCall.World
import ForeignCall.X86.Code
import ForeignCall.X86.Instruction
import ForeignCall.X86.Machine
import ForeignCall.Proofs.Bytes
import ForeignCall.Proofs.Image
import ForeignCall.Proofs.Slot
import ForeignCall.Proofs.X86.Execution
import ForeignCall.Proofs.Registers
import ForeignCall.Proofs.Stub.Execution
import ForeignCall.Proofs.Call.Arrival
import ForeignCall.Proofs.Running
import ForeignCall.Proofs.Signature
import ForeignCall.Proofs.Call.Stub
import ForeignCall.Proofs.Call.Plan
import ForeignCall.Proofs.Call.Lending
import ForeignCall.Proofs.Call.Scalars
import ForeignCall.Proofs.Call.Paths
import ForeignCall.Proofs.Call.Agreement
import ForeignCall.Proofs.Closure.Accounts
import ForeignCall.Proofs.Closure.Keeping
import ForeignCall.Proofs.Closure.Quiet
import ForeignCall.Proofs.Closure.Soundness
import ForeignCall.Proofs.Closure.Allocation
import ForeignCall.Proofs.Closure.Passable
import ForeignCall.Proofs.Closure.Totals
import ForeignCall.Proofs.Closure.Upkeep
import ForeignCall.Proofs.Closure.Entering
import ForeignCall.Proofs.Closure.Runs
import ForeignCall.Proofs.Closure.Books
import ForeignCall.Proofs.Closure.Pointers
import ForeignCall.Proofs.Stub.Attachment
import ForeignCall.Proofs.Text.Units
import ForeignCall.Proofs.Text.Characters
import ForeignCall.Proofs.Text.Spelling
import ForeignCall.Proofs.Text.Decoding
import ForeignCall.Proofs.Text.Passing
import ForeignCall.Proofs.Binding.Alike
import ForeignCall.Proofs.Binding.Finding
import ForeignCall.Proofs.Binding.Resolving
import ForeignCall.Proofs.Binding.Preparing
import ForeignCall.Proofs.Binding.Beginning
import ForeignCall.Proofs.Binding.Fate
import ForeignCall.Proofs.Binding.Invoking
import ForeignCall.Proofs.Binding.Attaching
import ForeignCall.Proofs.Binding.Publishing
import ForeignCall.Proofs.Binding.Isolation
import ForeignCall.Proofs.Binding.Precedence
import ForeignCall.Proofs.Call.Buffers
import ForeignCall.Proofs.Call.Loans
import ForeignCall.Proofs.Call.Preparation
import ForeignCall.Proofs.Binding.Gentleness
import ForeignCall.Proofs.Call.Calling
import ForeignCall.Proofs.Call.References
import ForeignCall.Proofs.Converter.Remembering
import ForeignCall.Proofs.Numeric
import ForeignCall.Proofs.Converter.Masks
import ForeignCall.Proofs.Converter.Plain
import ForeignCall.Proofs.Converter.Flags
import ForeignCall.Proofs.Converter.Constants
import ForeignCall.Proofs.Closure.Indifference
import ForeignCall.Proofs.Closure.Shaping
import ForeignCall.Proofs.Closure.Mirroring
import ForeignCall.Proofs.Binding.Aliases
import ForeignCall.Proofs.Binding.Standard
import ForeignCall.Proofs.Call.Suitability
import ForeignCall.Proofs.Call.Promotion
import ForeignCall.Proofs.Call.Trailing
import ForeignCall.Proofs.Binding.Names
import ForeignCall.Proofs.Closure.Packing
import ForeignCall.Proofs.Closure.Peak
import ForeignCall.Proofs.Ownership.Blocks
import ForeignCall.Proofs.Binding.Upholding
import ForeignCall.Proofs.Ownership.Slots
import ForeignCall.Proofs.Ownership.Libraries
import ForeignCall.Proofs.Ownership.Estates
import ForeignCall.Proofs.Binding.Building
import ForeignCall.Proofs.Binding.Variables
import ForeignCall.Proofs.Closure.Refusals
import ForeignCall.Proofs.Closure.Handing
import ForeignCall.Proofs.Closure.Sizes
import ForeignCall.Proofs.Memory
import ForeignCall.Proofs.Stub.Layout
import ForeignCall.Proofs.Converter.Consulting
import ForeignCall.Proofs.Converter.Counting
import ForeignCall.Proofs.Closure.Entries
import ForeignCall.Proofs.Closure.Demands
import ForeignCall.Proofs.Tally.Closures
import ForeignCall.Proofs.Tally.Libraries
import ForeignCall.Proofs.Tally.Estates
import ForeignCall.Proofs.Faults.Confinement
import ForeignCall.Proofs.Faults.Converters
import ForeignCall.Proofs.Faults.Mappers
import ForeignCall.Proofs.Faults.Signatures
import ForeignCall.Proofs.Faults.Calls
import ForeignCall.Proofs.Binding.Paging
import ForeignCall.Proofs.Faults.Entries
import ForeignCall.Proofs.Faults.Estates
import ForeignCall.Proofs.Text.Growing
import ForeignCall.Proofs.Closure.Reclaiming
import ForeignCall.Proofs.Annotation
