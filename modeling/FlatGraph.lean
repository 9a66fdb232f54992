import FlatGraph.Word
import FlatGraph.Align
import FlatGraph.Fault
import FlatGraph.Offset
import FlatGraph.Pointer
import FlatGraph.View
import FlatGraph.Memory
import FlatGraph.Frame
import FlatGraph.Buffer.Basic
import FlatGraph.Buffer.Edit
import FlatGraph.Flattener
import FlatGraph.Script
import FlatGraph.Schema
import FlatGraph.Flatten
import FlatGraph.Resolve
import FlatGraph.Storage
import FlatGraph.WorkingCopy
import FlatGraph.Derive.Letter
import FlatGraph.Derive.Token
import FlatGraph.Derive.Lexer
import FlatGraph.Derive.Literal
import FlatGraph.Derive.Attribute
import FlatGraph.Derive.Item
import FlatGraph.Derive.Role
import FlatGraph.Derive.Implementation
import FlatGraph.Derive.Grammar.Basic
import FlatGraph.Derive.Grammar.Bound
import FlatGraph.Derive.Grammar.Expression
import FlatGraph.Derive.Grammar.Predicate
import FlatGraph.Proofs.Action
import FlatGraph.Proofs.Align
import FlatGraph.Proofs.Buffer
import FlatGraph.Proofs.Flattener
import FlatGraph.Proofs.Faults
import FlatGraph.Proofs.Frames
import FlatGraph.Proofs.Ledger.Basic
import FlatGraph.Proofs.Ledger.Sound
import FlatGraph.Proofs.Ledger.Run
import FlatGraph.Proofs.Ledger.Tiling
import FlatGraph.Proofs.Ledger.Slots
import FlatGraph.Proofs.Ledger.Script
import FlatGraph.Proofs.Ledger.Scopes
import FlatGraph.Proofs.Memory
import FlatGraph.Proofs.View
import FlatGraph.Proofs.Walk.Part
import FlatGraph.Proofs.Walk.Laid
import FlatGraph.Proofs.Walk.Trace
import FlatGraph.Proofs.Walk.Mirror
import FlatGraph.Proofs.Walk.Flatten
import FlatGraph.Proofs.Walk.Resolve
import FlatGraph.Proofs.Walk.RoundTrip
import FlatGraph.Proofs.Walk.Copies
import FlatGraph.Proofs.Ledger.Depth
import FlatGraph.Proofs.Walk.Readings
import FlatGraph.Proofs.Walk.Value
import FlatGraph.Proofs.Walk.Confined
import FlatGraph.Proofs.Walk.Twins
import FlatGraph.Proofs.Ledger.Failures
import FlatGraph.Proofs.Walk.NullArray
import FlatGraph.Proofs.Buffer.Contents
import FlatGraph.Proofs.Buffer.Cells
import FlatGraph.Proofs.Buffer.Growth
import FlatGraph.Proofs.Ledger.Room
import FlatGraph.Proofs.Ledger.Abreast
import FlatGraph.Proofs.Walk.Abreast
import FlatGraph.Proofs.View.Descent
import FlatGraph.Proofs.Walk.Rebase
import FlatGraph.Proofs.Mask
import FlatGraph.Proofs.Checked.Basic
import FlatGraph.Proofs.Checked.Buffer
import FlatGraph.Proofs.Checked.Flattener
import FlatGraph.Proofs.Checked.Reached
import FlatGraph.Proofs.Ledger.Scoped
import FlatGraph.Proofs.WorkingCopy
import FlatGraph.Proofs.Checked.View
import FlatGraph.Proofs.View.Bounds
import FlatGraph.Proofs.View.Peeking
import FlatGraph.Proofs.Derive.Agreement
import FlatGraph.Proofs.Buffer.Capacity
import FlatGraph.Proofs.Derive.Bounds
import FlatGraph.Proofs.Buffer.Words
import FlatGraph.Proofs.Frames.Elements
import FlatGraph.Proofs.WorkingCopy.Scan
import FlatGraph.Proofs.Derive.Mention
