import AsmDispatch.Command.Toolkit
import AsmDispatch.Session

/-! # The command

It compiles one source to standard output or to a file. What could not be recognised is reported
beside the output; a failure leaves nothing behind. -/

namespace AsmDispatch.Command

open Text (Bytes)

namespace Streams

variable (s : Streams)

/-- Lines that are shown only when asked for. -/
def detail (o : Options) (ls : List Text) : List Text := if o.verbose then ls.map s.say else []

/-- The lines that report a failure. `activity` names what failed, if it has a name. -/
def report (verbose : Bool) (activity : Text) (f : Failure) : List Text :=
  match f.status with
  | .internalError =>
    s.say ("Internal error: " ++ f.message) :: if verbose then s.trace f else []
  | .buildError =>
    if activity = [] then [s.say ("Error: " ++ f.message)]
    else [s.say (activity ++ " error: " ++ f.message)]
  | _ => [s.say ("Error: " ++ f.message)]

/-- The end of a run that fails. `before` has been reported by then. -/
def failure (o : Options) (before : List Text) (f : Failure) : Outcome :=
  { status := f.status, stderr := unlines (before ++ s.report o.verbose "Translation" f) }

end Streams

/-- The records of a log that are shown. -/
def Options.shownLog (o : Options) (log : List LogRecord) : List Text :=
  let threshold := if o.verbose then LogRecord.debugLevel else LogRecord.errorLevel
  let shown := log.filter fun r => threshold ≤ r.level && LogRecord.isShown r.level r.logger
  shown.map LogRecord.line

def configOf (env : Environment) (o : Options) : Except Error Config := do
  let c := Config.ofEnvironment env
  let config := { c with stepName := o.stepName.getD c.stepName }
  return (← Session.start config o.target o.romBase).config

/-- What comes of the source: its lines are read as they are needed. -/
def Call.compilation (call : Call) (c : Config) : Compilation :=
  .ofReading c call.options.verbose call.source.filename (.ofChunks call.source.chunks)

namespace Streams

variable (s : Streams)

/-- What is reported before anything is compiled. -/
def headerLines (o : Options) (c : Config) : List Text :=
  s.detail o ["Target: " ++ c.target, "ROM base: " ++ Text.hex c.romBase]

/-- The log and the diagnostics of a source that compiled. -/
def reportLines (o : Options) (c : Compilation) (p : Product) : List Text :=
  o.shownLog c.log ++
    (p.unknown.map Fault.message ++
      c.diagnostics.warnings.map Diagnostics.warningLine).map s.say

end Streams

def wroteLine (path : Text) (p : Product) : Text :=
  "Wrote " ++ Text.decimal p.slotCount ++ " slots to " ++ path

def summaryLine (p : Product) : Text :=
  "Translation complete: " ++ Text.decimal p.slotCount ++ " slots, " ++
    Text.decimal p.regions.length ++ " data regions (" ++
    Text.decimal (Region.totalSize p.regions) ++ " bytes), " ++
    Text.decimal p.unknown.length ++ " unknown lines"

variable {m : Type → Type} [Monad m]

/-- Put the output where it was asked for. `before` has been reported by then. -/
def deliver (s : Streams) (write : Text → Bytes → m (Except FileError.Kind Unit)) (o : Options)
    (before : List Text) (p : Product) : m Outcome := do
  match o.output with
  | none =>
    match s.print p.output.text with
    | .error message => return s.failure o before (.unforeseen message)
    | .ok stdout =>
      return { status := .success, stdout,
               stderr := unlines (before ++ s.detail o [summaryLine p]) }
  | some path =>
    let path := Path.normalize path
    match ← write path (Text.Utf8.encode p.output.text) with
    | .error kind => return s.failure o before (.ofError (.file { kind, path }))
    | .ok () =>
      return { status := .success,
               stderr := unlines (before ++ s.detail o [wroteLine path p, summaryLine p]) }

def work (s : Streams) (write : Text → Bytes → m (Except FileError.Kind Unit)) (env : Environment)
    (call : Call) : m Outcome := do
  match configOf env call.options with
  | .error e => return s.failure call.options [] (.ofError e)
  | .ok config =>
    let header := s.headerLines call.options config
    let c := call.compilation config
    match c.result with
    | .error e =>
      return s.failure call.options (header ++ call.options.shownLog c.log) (.ofError e)
    | .ok p => deliver s write call.options (header ++ s.reportLines call.options c p) p

/-- A run from the words to the end. -/
def Toolkit.run (k : Toolkit m) (write : Text → Bytes → m (Except FileError.Kind Unit))
    (inv : Invocation) : m Outcome := do
  match ← k.start readBase inv.args with
  | .error outcome => return outcome
  | .ok call => work k.toStreams write inv.env call

end AsmDispatch.Command
