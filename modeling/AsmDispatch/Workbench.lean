import AsmDispatch.Config
import AsmDispatch.Output

/-! # The workbench

A program with the symbols, slots and regions found so far. Steps may come in any order and may be
repeated; the program may be edited between them. -/

namespace AsmDispatch

structure Workbench where
  lines : List Line
  /-- The regions of the last analysis. -/
  regions : List Region := []
  /-- The symbols of the last resolution. -/
  symbols : Symbols := {}
  /-- The number of instructions at the end of the last first pass. -/
  slotCount : Nat := 0
  /-- Whether there has been a resolution. -/
  resolved : Bool := false
  /-- All warnings, in the order in which they came up. -/
  warnings : List Text := []
deriving DecidableEq, Repr

namespace Workbench

/-- Find the data regions. Labels that were data labels before remain so. -/
def analyze (w : Workbench) (base : Int) : Workbench :=
  let (lines, regions) := Region.analyze base w.lines
  { w with lines, regions }

/-- Number the program and collect its symbols anew. -/
def resolve (w : Workbench) : Workbench :=
  let (symbols, warnings) := Symbols.collect w.lines
  { w with
    lines := Line.stampAll w.lines
    symbols
    slotCount := Line.slotCount w.lines
    resolved := true
    warnings := w.warnings ++ warnings }

/-- Number the first lines and leave the others as they are. -/
def stampFirst (w : Workbench) (n : Nat) : Workbench :=
  { w with lines := (Line.stampAll w.lines).take n ++ w.lines.drop n }

/-- What the end of a pass does: the first pass counts the slots, any other must agree with it. -/
def endPass (w : Workbench) (pass : Int) : Except Error Workbench :=
  let found := Line.slotCount w.lines
  if pass = 0 then .ok { w with slotCount := found }
  else if found = w.slotCount then .ok w
  else .error (.passMismatch pass found w.slotCount)

/-- Number the program, giving each record with its slot. A pass that is cut off after `limit` lines
leaves the rest alone and has no end. -/
def walk (w : Workbench) (pass : Int) (limit : Option Nat) :
    Workbench × Except Error (List (Record × Nat)) :=
  let visits := (w.lines.map (·.record)).zip (Line.slotsFrom 0 w.lines)
  match limit.filter (· ≤ w.lines.length) with
  | some n => (w.stampFirst n, .ok (visits.take n))
  | none =>
    let w := w.stampFirst w.lines.length
    match w.endPass pass with
    | .ok w => (w, .ok visits)
    | .error e => (w, .error e)

def append (w : Workbench) (lines : List Line) : Workbench := { w with lines := w.lines ++ lines }

/-- The place of the line that an index names, if there is one. A negative index counts from the
end. -/
def place? (w : Workbench) (index : Int) : Option Nat :=
  let i := if index < 0 then index + w.lines.length else index
  if 0 ≤ i ∧ i < w.lines.length then some i.toNat else none

/-- Remove a line. The program stays as it is if the index names none. -/
def remove (w : Workbench) (index : Int) : Except Error Workbench :=
  match w.place? index with
  | some i => .ok { w with lines := w.lines.eraseIdx i }
  | none => .error (.fault { cause := .other ("no line at index " ++ Text.decimal index) })

/-- Make the dispatch procedure, which is a second pass. -/
def dispatch (w : Workbench) (h : Host) (c : Config) : Workbench × Except Error (List Text) :=
  let body := Body.ofLines h w.symbols w.lines
  let w := { w with lines := body.lines, warnings := w.warnings ++ body.warnings }
  match body.entries with
  | .error f => (w, .error (.fault f))
  | .ok entries =>
    match w.endPass 1 with
    | .error e => (w, .error e)
    | .ok w => (w, .ok (Dispatch.lines h c.stepName w.slotCount entries))

/-- The blocks in front of the dispatch procedure, with that left empty. -/
def tables (w : Workbench) (h : Host) (c : Config) : Except Fault Output := do
  let definitions ← Output.definitionLines h w.lines
  let data ← Output.dataLines h c.tableName w.regions
  return {
    labels := Output.labelLines h w.symbols w.lines
    definitions
    addresses := Output.addressLines h w.symbols w.regions
    data
    dispatch := [] }

/-- Make all blocks, after a resolution if there has been none. -/
def emit (w : Workbench) (h : Host) (c : Config) : Workbench × Except Error Output :=
  let w := if w.resolved then w else w.resolve
  match w.tables h c with
  | .error f => (w, .error (.fault f))
  | .ok tables =>
    let (w, result) := w.dispatch h c
    (w, result.map fun dispatch => { tables with dispatch })

inductive Block where
  | labels
  | definitions
  | addresses
  | data
  | dispatch
deriving DecidableEq, Repr

def ofFault {α : Type} : Except Fault α → Except Error α
  | .ok a => .ok a
  | .error f => .error (.fault f)

/-- Make one block from the symbols and slots as they are. -/
def render (w : Workbench) (h : Host) (c : Config) : Block → Workbench × Except Error (List Text)
  | .labels => (w, .ok (Output.labelLines h w.symbols w.lines))
  | .definitions => (w, ofFault (Output.definitionLines h w.lines))
  | .addresses => (w, .ok (Output.addressLines h w.symbols w.regions))
  | .data => (w, ofFault (Output.dataLines h c.tableName w.regions))
  | .dispatch => w.dispatch h c

/-- Make the statement of a single instruction. -/
def statement (w : Workbench) (h : Host) (location : Option Location) (i : Instruction) :
    Workbench × Except Error Statement :=
  ({ w with warnings := w.warnings ++ (i.undefinedTarget? h w.symbols location).toList },
    ofFault (i.statement h w.symbols location))

/-! ## Steps as data -/

inductive Step where
  | analyze (base : Int)
  | resolve
  | walk (pass : Int) (limit : Option Nat)
  | append (lines : List Line)
  | remove (index : Int)
  | lookup (name : Text)
  | lines
  | emit (target : Text) (c : Config)
  | render (target : Text) (c : Config) (block : Block)
  | instruction (target : Text) (location : Option Location) (i : Instruction)
deriving DecidableEq, Repr

/-- What a step gives back. -/
inductive Answer where
  | regions (rs : List Region)
  | symbols (s : Symbols) (slotCount : Nat)
  | visits (vs : List (Record × Nat))
  | count (n : Nat)
  | lookup (slot : Option Nat) (known : Bool)
  | lines (ls : List Line)
  | output (o : Output)
  | block (lines : List Text)
  | statement (lines : List Text) (transfers : Bool)
deriving DecidableEq, Repr

/-- Go on with the host of a name, if there is one. -/
def withHost {α : Type} (w : Workbench) (target : Text)
    (f : Host → Workbench × Except Error α) : Workbench × Except Error α :=
  match Host.ofName? target with
  | some h => f h
  | none => (w, .error (.unknownHost target))

def run (w : Workbench) : Step → Workbench × Except Error Answer
  | .analyze base =>
    let w := w.analyze base
    (w, .ok (.regions w.regions))
  | .resolve =>
    let w := w.resolve
    (w, .ok (.symbols w.symbols w.slotCount))
  | .walk pass limit =>
    let (w, result) := w.walk pass limit
    (w, result.map .visits)
  | .append lines =>
    let w := w.append lines
    (w, .ok (.count w.lines.length))
  | .remove index =>
    match w.remove index with
    | .ok w => (w, .ok (.count w.lines.length))
    | .error e => (w, .error e)
  | .lookup name => (w, .ok (.lookup (w.symbols.codeLabels.get? name) (w.symbols.has name)))
  | .lines => (w, .ok (.lines w.lines))
  | .emit target c => w.withHost target fun h =>
    let (w, result) := w.emit h c
    (w, result.map .output)
  | .render target c block => w.withHost target fun h =>
    let (w, result) := w.render h c block
    (w, result.map .block)
  | .instruction target location i => w.withHost target fun h =>
    let (w, result) := w.statement h location i
    (w, result.map fun s => .statement (s.linesWithComment h i.comment) s.transfers)

end Workbench

end AsmDispatch
