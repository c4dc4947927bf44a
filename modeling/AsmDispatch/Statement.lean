import AsmDispatch.Family
import AsmDispatch.Host
import AsmDispatch.Literal.Format
import AsmDispatch.Operand
import AsmDispatch.Symbols

/-! # Statements

What an instruction becomes, before it is written in a host language. -/

namespace AsmDispatch

inductive Statement where
  /-- Runs through to the next slot. -/
  | plain (source : Text)
  /-- Ends the step; the next slot is the value of `target`. -/
  | transfer (target : Text)
  /-- Ends the step at `target` if `predicate` holds, and runs through otherwise. -/
  | branch (predicate target : Text)
deriving DecidableEq, Repr

namespace Statement

/-- Whether the statement always ends the step. -/
def transfers : Statement → Bool
  | .transfer _ => true
  | _ => false

def lines (h : Host) : Statement → List Text
  | .plain source => [source]
  | .transfer target =>
    match h with
    | .javascript => ["pc=" ++ target ++ "; break"]
    | .python => ["return " ++ target]
  | .branch predicate target =>
    match h with
    | .javascript => ["if (" ++ predicate ++ ") \x7b pc=" ++ target ++ "; break \x7d"]
    | .python => ["if " ++ predicate ++ ":", h.indent 1 ++ "return " ++ target]

/-- The lines with a comment behind the first. -/
def linesWithComment (h : Host) (s : Statement) (comment : Option Text) : List Text :=
  match s.lines h with
  | [] => []
  | l :: ls => h.withComment l comment :: ls

end Statement

namespace Instruction

def family (h : Host) (i : Instruction) : Family := .ofMnemonic h.escape i.mnemonic

/-- Whether the helper finds the next slot through memory. -/
def isIndirect (i : Instruction) : Bool := (Operand.ofText i.operand).suffix == ("_indirect" : Text)

/-- Whether the whole operand names the next slot. -/
def namesTarget (h : Host) (i : Instruction) : Bool :=
  match i.family h with
  | .branch | .call => true
  | .jump => !i.isIndirect
  | _ => false

/-- A call of a helper. -/
def helper (name argument : Text) : Text := name ++ "(" ++ argument ++ ")"

/-- The next slot that the operand names: the slot of a code label, or a host expression. -/
def target (symbols : Symbols) (location : Option Location) (i : Instruction) : Except Fault Text :=
  match symbols.codeLabels.get? i.operand with
  | some slot => .ok (Text.decimal slot)
  | none => Literal.format i.operand location

/-- A call of the helper for the addressing mode. -/
def addressed (location : Option Location) (i : Instruction) : Except Fault Text :=
  let operand := Operand.ofText i.operand
  match operand.literal? with
  | none => .ok (helper i.mnemonic [])
  | some literal => do
    let value ← Literal.format literal location
    return helper (i.mnemonic ++ operand.suffix) value

def statement (h : Host) (symbols : Symbols) (location : Option Location) (i : Instruction) :
    Except Fault Statement :=
  match i.family h with
  | .loadStore | .arithmetic => return .plain (← i.addressed location)
  | .branch => return .branch (helper i.mnemonic []) (← i.target symbols location)
  | .jump =>
    if i.isIndirect then return .transfer (← i.addressed location)
    else return .transfer (← i.target symbols location)
  | .call => return .transfer (helper i.mnemonic ("pc, " ++ (← i.target symbols location)))
  | .leave => return .transfer (helper i.mnemonic i.operand)
  | .escape => return .plain i.operand
  | .generic => return .plain (helper i.mnemonic i.operand)

/-- A single name: a letter of ASCII or an underscore, then word characters. -/
def isName : Text → Bool
  | [] => false
  | c :: t => (c.isAlpha || c == '_') && t.all Text.isWord

/-- The warning for a target that names nothing known. -/
def undefinedTarget? (h : Host) (symbols : Symbols) (location : Option Location) (i : Instruction) :
    Option Text :=
  if i.namesTarget h && isName i.operand && !symbols.has i.operand then
    some (Location.label location
      (i.mnemonic ++ " target '" ++ i.operand ++ "' is not a defined label"))
  else none

end Instruction

end AsmDispatch
