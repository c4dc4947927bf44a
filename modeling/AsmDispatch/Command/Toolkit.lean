import AsmDispatch.Address
import AsmDispatch.Command.Exit
import AsmDispatch.Config

/-! # What the command leaves to others

The command does not take its words apart, and it does not write to a stream by itself. A toolkit
does both: it reads the words, opens the source and calls the command with what it has found, or it
ends the run without the command; and all that the command prints or reports goes through it.
Nothing is said here about how it does so. -/

namespace AsmDispatch.Command

open Text (Bytes)

/-- The words of a command line, and the variables that the command itself looks at. What else there
is in the environment, such as the encoding of a stream, is the business of the toolkit. -/
structure Invocation where
  args : List Text
  env : Environment := {}
deriving DecidableEq, Repr

/-- The values of the options. -/
structure Options where
  output : Option Text := none
  target : Option Text := none
  romBase : Option Int := none
  stepName : Option Text := none
  verbose : Bool := false
deriving DecidableEq, Repr

/-- A source that has been opened: its name, and its bytes in the chunks in which they arrive. -/
structure Source where
  filename : Text
  chunks : List Bytes
deriving DecidableEq, Repr

/-- What the command is called with. -/
structure Call where
  options : Options := {}
  source : Source
deriving DecidableEq, Repr

/-- How a toolkit has to read the value of the option for the base: the address, or a message. -/
def readBase (value : Text) : Except Text Int :=
  match Address.ofText? value with
  | some a => .ok a
  | none => .error ("invalid address '" ++ value ++ "'")

/-- How texts get to the streams. -/
structure Streams where
  /-- What standard output takes of a text, or a message if it takes none of it. -/
  print : Text → Except Text Text
  /-- A line as it gets to standard error, which takes every text. -/
  say : Text → Text
  /-- The lines that tell where a failure came from that was not foreseen. -/
  trace : Failure → List Text

structure Toolkit (m : Type → Type) extends Streams where
  /-- Follow the words: end the run, or call the command. -/
  start : (Text → Except Text Int) → List Text → m (Except Outcome Call)

end AsmDispatch.Command
