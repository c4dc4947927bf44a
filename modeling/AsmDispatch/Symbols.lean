import AsmDispatch.Line.Slot

/-! # Symbols of a program

A label stands for the slot of the next instruction, or for an address if it is a data label. Of
several labels of one name the last one counts; each earlier one is reported when it is given up. -/

namespace AsmDispatch

/-- Values by name, in the order in which the names were entered. -/
abbrev Table (α : Type) := List (Text × α)

namespace Table

variable {α : Type}

def get? (t : Table α) (name : Text) : Option α := List.lookup name t

def has (t : Table α) (name : Text) : Bool := t.any (·.1 == name)

def erase (t : Table α) (name : Text) : Table α := t.filter (·.1 != name)

/-- Enter a value. A name that has one keeps its place. -/
def set (t : Table α) (name : Text) (a : α) : Table α :=
  if t.has name then t.map fun e => if e.1 == name then (name, a) else e else t ++ [(name, a)]

end Table

structure Symbols where
  codeLabels : Table Nat := []
  dataLabels : Table Int := []
  definitions : Table Text := []
deriving DecidableEq, Repr

namespace Symbols

def hasLabel (s : Symbols) (name : Text) : Bool := s.codeLabels.has name || s.dataLabels.has name

def has (s : Symbols) (name : Text) : Bool := s.hasLabel name || s.definitions.has name

/-- Enter a label with its slot or address. A label of the same name is given up. -/
def addLabel (s : Symbols) (l : Label) (slot : Nat) (address : Int) : Symbols :=
  let codeLabels := s.codeLabels.erase l.name
  let dataLabels := s.dataLabels.erase l.name
  if l.isData then { s with codeLabels, dataLabels := dataLabels.set l.name address }
  else { s with codeLabels := codeLabels.set l.name slot, dataLabels }

/-- Enter what a line declares, with `slot` instructions in front of it. -/
def declare (s : Symbols) (slot : Nat) (line : Line) : Symbols :=
  match line.record with
  | .label l => s.addLabel l slot line.slot
  | .definition d => { s with definitions := s.definitions.set d.name d.literal }
  | _ => s

/-- The warning for a label whose name is taken. -/
def duplicate? (s : Symbols) (line : Line) : Option Text :=
  match line.record with
  | .label l =>
    if s.hasLabel l.name then
      some (Location.label line.location ("label '" ++ l.name ++ "' defined more than once"))
    else none
  | _ => none

/-- Enter the declarations of a program from the given slot on, and collect the warnings. -/
def collectFrom (slot : Nat) (s : Symbols) : List Line → Symbols × List Text
  | [] => (s, [])
  | l :: ls =>
    let (final, warnings) := collectFrom (l.nextSlot slot) (s.declare slot l) ls
    (final, (s.duplicate? l).toList ++ warnings)

def collect (ls : List Line) : Symbols × List Text := collectFrom 0 {} ls

end Symbols

end AsmDispatch
