import AsmDispatch.Diagnostics
import AsmDispatch.File.Tree
import AsmDispatch.Listing
import AsmDispatch.Log
import AsmDispatch.Text.Stream
import AsmDispatch.Workbench

/-! # Sessions

A session compiles sources one after the other under one configuration. It keeps the diagnostics of
the last source. -/

namespace AsmDispatch

/-- A compiled source. -/
structure Product where
  output : Output
  regions : List Region
  symbols : Symbols
  slotCount : Nat
  unknown : List Fault
deriving DecidableEq, Repr

/-- All that comes of a source: diagnostics and log also if it fails. -/
structure Compilation where
  diagnostics : Diagnostics
  log : List LogRecord
  result : Except Error Product

namespace Compilation

/-! ## Log records -/

def unknownRecord (f : Fault) : LogRecord :=
  .warning .listing (Location.label f.location f.cause.description)

def listingRecord (filename : Text) (l : Listing) : LogRecord :=
  .debug .listing <|
    "Classified " ++ Text.decimal l.lines.length ++ " records from " ++ filename ++ " (" ++
      Text.decimal l.unknown.length ++ " unknown lines)"

def regionRecord (r : Region) : LogRecord :=
  .debug .regions <|
    if r.size = 0 then "Data alias '" ++ r.name ++ "' at " ++ Text.hex r.address
    else "Data region '" ++ r.name ++ "' at " ++ Text.hex r.address ++ ", " ++
      Text.decimal r.size ++ " bytes"

def passRecord (pass slotCount : Nat) : LogRecord :=
  .debug .symbols <|
    "Pass " ++ Text.decimal pass ++ ": " ++ Text.decimal slotCount ++ " slots"

def productRecord (verbose : Bool) (filename : Text) (p : Product) : LogRecord where
  level := if verbose then LogRecord.infoLevel else LogRecord.debugLevel
  logger := Stage.session.logger
  message :=
    "Translated " ++ filename ++ ": " ++ Text.decimal p.slotCount ++ " slots, " ++
      Text.decimal p.symbols.codeLabels.length ++ " labels, " ++ Text.decimal p.regions.length ++
      " data regions (" ++ Text.decimal (Region.totalSize p.regions) ++ " bytes)"

/-! ## Compiling -/

/-- The program of a listing with its data found and its names resolved. -/
def prepare (c : Config) (l : Listing) : Workbench :=
  (({ lines := l.lines } : Workbench).analyze c.romBase).resolve

/-- The output for the target that the configuration names. -/
def emit (w : Workbench) (c : Config) : Workbench × Except Error Output :=
  w.withHost c.target (w.emit · c)

/-- Compile the lines of a source: recognise them, find the data, resolve the names, and make the
output. -/
def ofLines (c : Config) (verbose : Bool) (filename : Text) (source : List Text) : Compilation :=
  let listing := Listing.ofLines filename source
  let prepared := prepare c listing
  let (final, output) := emit prepared c
  let result := output.map fun output =>
    { output, regions := final.regions, symbols := final.symbols, slotCount := final.slotCount,
      unknown := listing.unknown }
  { diagnostics := { dropped := listing.unknown, warnings := final.warnings }
    log :=
      listing.unknown.map unknownRecord ++ [listingRecord filename listing] ++
        prepared.regions.map regionRecord ++
        prepared.warnings.map (.warning .symbols) ++ [passRecord 0 prepared.slotCount] ++
        (final.warnings.drop prepared.warnings.length).map (.warning .output) ++
        match result with
        | .ok p => [passRecord 1 p.slotCount, productRecord verbose filename p]
        | .error _ => []
    result }

/-- Compile what is read from a stream. If the stream stops before its end, the lines that could not
be recognised by then have been logged, and nothing else has been done. -/
def ofReading (c : Config) (verbose : Bool) (filename : Text) (r : Text.Reading) : Compilation :=
  match r.error? with
  | none => ofLines c verbose filename r.lines
  | some e =>
    { diagnostics := {}
      log := (Listing.ofLines filename r.lines).unknown.map unknownRecord
      result := .error (.undecodable e) }

end Compilation

structure Session where
  config : Config
  diagnostics : Diagnostics := {}
deriving DecidableEq, Repr

namespace Session

/-- A session under a configuration, with a target and a base put in place of its own. -/
def start (c : Config) (target : Option Text) (romBase : Option Int) : Except Error Session := do
  let config := c.override target romBase
  config.validate
  return { config }

def set (s : Session) (setting : Setting) : Session := { s with config := s.config.set setting }

def clear (s : Session) : Session := { s with diagnostics := {} }

def compileLines (s : Session) (filename : Text) (source : List Text) :
    Session × Except Error Product :=
  let c := Compilation.ofLines s.config false filename source
  ({ s with diagnostics := c.diagnostics }, c.result)

def compileText (s : Session) (filename source : Text) : Session × Except Error Product :=
  s.compileLines filename (Text.lines source)

/-- The text of a file, with its line ends made alike. -/
def fileText (files : Tree) (path : Text) : Except Error Text := do
  unless Path.isPath path do throw .nullInPath
  match files.read path with
  | .error kind => throw (.file { kind, path })
  | .ok bytes =>
    match Text.Utf8.decode bytes with
    | .error e => throw (.undecodable e)
    | .ok t => return Text.unifyLineEnds t

/-- Compile a file. If it cannot be read, the diagnostics stay as they are. -/
def compileFile (s : Session) (files : Tree) (path : Text) : Session × Except Error Product :=
  let path := Path.normalize path
  match fileText files path with
  | .error e => (s, .error e)
  | .ok source => s.compileText path source

end Session

/-- Compile a file for a target. -/
def compileFile (files : Tree) (path target : Text) : Except Error Text := do
  let s ← Session.start {} (some target) none
  return (← (s.compileFile files path).2).output.text

/-- Compile a text for a target. -/
def compile (source target : Text) (romBase : Option Int) : Except Error Text := do
  let s ← Session.start {} (some target) romBase
  return (← (s.compileText "<input>" source).2).output.text

end AsmDispatch
