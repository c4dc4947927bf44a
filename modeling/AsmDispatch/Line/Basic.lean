import AsmDispatch.Location
import AsmDispatch.Text.Case

/-! # Records of source lines -/

namespace AsmDispatch

/-- A named constant. -/
structure Definition where
  name : Text
  literal : Text
  comment : Option Text := none
deriving DecidableEq, Repr

/-- An assembler directive; its name starts with a dot. -/
structure Directive where
  name : Text
  operand : Text := []
  comment : Option Text := none
deriving DecidableEq, Repr

structure Label where
  name : Text
  comment : Option Text := none
  /-- Stands for an address of the data rather than for a slot. -/
  isData : Bool := false
deriving DecidableEq, Repr

structure Instruction where
  mnemonic : Text
  operand : Text := []
  comment : Option Text := none
deriving DecidableEq, Repr

namespace Instruction

/-- An instruction as written: the mnemonic goes to upper case, and blanks around it and around the
operand are dropped. -/
def ofText (mnemonic operand : Text) (comment : Option Text) : Instruction where
  mnemonic := Text.upper (Text.strip mnemonic)
  operand := Text.strip operand
  comment := comment

end Instruction

inductive Record where
  | comment (text : Text)
  | definition (d : Definition)
  | directive (d : Directive)
  | label (l : Label)
  | instruction (i : Instruction)
deriving DecidableEq, Repr

/-- The slot of a record that has not been numbered. -/
def unassigned : Int := -1

/-- A record with its place and its number: the slot of the instruction, or of the next one for
other records, or the address of a data label. -/
structure Line where
  record : Record
  location : Option Location := none
  slot : Int := unassigned
deriving DecidableEq, Repr

namespace Directive

/-- Whether the directive lays down bytes. -/
def isByteData (d : Directive) : Bool := Text.lower d.name == (".db" : Text)

end Directive

namespace Line

def isInstruction (l : Line) : Bool := l.record matches .instruction _

def isLabel (l : Line) : Bool := l.record matches .label _

def isDefinition (l : Line) : Bool := l.record matches .definition _

def isDataLabel (l : Line) : Bool :=
  match l.record with
  | .label d => d.isData
  | _ => false

def isByteData (l : Line) : Bool :=
  match l.record with
  | .directive d => d.isByteData
  | _ => false

end Line

end AsmDispatch
