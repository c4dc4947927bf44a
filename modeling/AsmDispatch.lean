import AsmDispatch.Address
import AsmDispatch.Command.Exit
import AsmDispatch.Command.Run
import AsmDispatch.Command.Toolkit
import AsmDispatch.Command.Words
import AsmDispatch.Command.Work
import AsmDispatch.Config
import AsmDispatch.Diagnostics
import AsmDispatch.Dispatch
import AsmDispatch.Error
import AsmDispatch.Family
import AsmDispatch.Fault
import AsmDispatch.File.Basic
import AsmDispatch.File.Path
import AsmDispatch.File.Tree
import AsmDispatch.Host
import AsmDispatch.Line.Basic
import AsmDispatch.Line.Form
import AsmDispatch.Line.Slot
import AsmDispatch.Listing
import AsmDispatch.Literal.Basic
import AsmDispatch.Literal.Format
import AsmDispatch.Literal.Render
import AsmDispatch.Literal.Scan
import AsmDispatch.Location
import AsmDispatch.Log
import AsmDispatch.Main
import AsmDispatch.Operand
import AsmDispatch.Output
import AsmDispatch.Proofs.Address
import AsmDispatch.Proofs.Command.Agreement
import AsmDispatch.Proofs.Command.Console
import AsmDispatch.Proofs.Command.Delivery
import AsmDispatch.Proofs.Command.Echo
import AsmDispatch.Proofs.Command.Status
import AsmDispatch.Proofs.Command.Words
import AsmDispatch.Proofs.Command.Work
import AsmDispatch.Proofs.Comment
import AsmDispatch.Proofs.Compilation
import AsmDispatch.Proofs.Diagnostics
import AsmDispatch.Proofs.Dispatch.Body
import AsmDispatch.Proofs.Dispatch.Case
import AsmDispatch.Proofs.Dispatch.Chain
import AsmDispatch.Proofs.Dispatch.Code
import AsmDispatch.Proofs.Dispatch.Lines
import AsmDispatch.Proofs.Dispatch.Refinement
import AsmDispatch.Proofs.Dispatch.Shown
import AsmDispatch.Proofs.Dispatch.Step
import AsmDispatch.Proofs.Dispatch.Switch
import AsmDispatch.Proofs.Dispatch.Target
import AsmDispatch.Proofs.Dispatch.Tidy
import AsmDispatch.Proofs.Dispatch.Verbatim
import AsmDispatch.Proofs.Environment
import AsmDispatch.Proofs.Failure
import AsmDispatch.Proofs.File.Tree
import AsmDispatch.Proofs.Line.Composition
import AsmDispatch.Proofs.Line.Label
import AsmDispatch.Proofs.Line.Layout
import AsmDispatch.Proofs.Listing
import AsmDispatch.Proofs.Listing.Share
import AsmDispatch.Proofs.Literal.Acceptance
import AsmDispatch.Proofs.Literal.Derivation
import AsmDispatch.Proofs.Literal.Element
import AsmDispatch.Proofs.Literal.Grouping
import AsmDispatch.Proofs.Literal.Remainder
import AsmDispatch.Proofs.Operand
import AsmDispatch.Proofs.Output
import AsmDispatch.Proofs.Output.Constants
import AsmDispatch.Proofs.Output.Declaration
import AsmDispatch.Proofs.Output.Lines
import AsmDispatch.Proofs.Output.Order
import AsmDispatch.Proofs.Places
import AsmDispatch.Proofs.Prepared
import AsmDispatch.Proofs.Region.Layout
import AsmDispatch.Proofs.Region.Ownership
import AsmDispatch.Proofs.Region.Table
import AsmDispatch.Proofs.Relocation
import AsmDispatch.Proofs.Resolution
import AsmDispatch.Proofs.Symbols
import AsmDispatch.Proofs.Text.Lines
import AsmDispatch.Proofs.Text.Stream
import AsmDispatch.Proofs.Text.Utf8
import AsmDispatch.Proofs.Text.Within
import AsmDispatch.Proofs.Warnings
import AsmDispatch.Proofs.Workbench.Settled
import AsmDispatch.Proofs.Workbench.Walk
import AsmDispatch.Region
import AsmDispatch.Session
import AsmDispatch.Statement
import AsmDispatch.Symbols
import AsmDispatch.Text.Basic
import AsmDispatch.Text.Blank
import AsmDispatch.Text.Case
import AsmDispatch.Text.Case.Context
import AsmDispatch.Text.Case.Fold
import AsmDispatch.Text.Case.Lower
import AsmDispatch.Text.Case.Shift
import AsmDispatch.Text.Case.Upper
import AsmDispatch.Text.Control
import AsmDispatch.Text.Digit
import AsmDispatch.Text.Hidden
import AsmDispatch.Text.Identifier
import AsmDispatch.Text.Letter
import AsmDispatch.Text.Lines
import AsmDispatch.Text.Mark
import AsmDispatch.Text.Number
import AsmDispatch.Text.Numeral
import AsmDispatch.Text.Quoted
import AsmDispatch.Text.Range
import AsmDispatch.Text.Stream
import AsmDispatch.Text.Utf8
import AsmDispatch.Text.Word
import AsmDispatch.Workbench
