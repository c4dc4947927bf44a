import AsmDispatch.Line.Basic
import AsmDispatch.Text.Blank
import AsmDispatch.Text.Lines
import AsmDispatch.Text.Word

/-! # The forms of source lines

A line has one of eight forms. Labels and definitions start in the first column, and directives and
instructions without a label are indented. The first semicolon starts the comment. -/

namespace AsmDispatch

open Text (isBlank isWord run? strip stripStart stripEnd isOneLine)

inductive Form where
  | blank
  | comment
  | definition
  | directive
  | label
  | labelledInstruction
  | labelledDirective
  | instruction
deriving DecidableEq, Repr

namespace Form

/-- Comment text; blank text is no comment. -/
def note (t : Text) : Option Text :=
  match strip t with
  | [] => none
  | t => some t

/-- The comment of a text that is empty or starts with a semicolon. -/
def readNote? : Text → Option (Option Text)
  | ';' :: t => if isOneLine t then some (note t) else none
  | [] => some none
  | _ => none

def beforeNote (t : Text) : Text := t.takeWhile (· ≠ ';')

def fromNote (t : Text) : Text := t.dropWhile (· ≠ ';')

/-- Operand and comment behind a mnemonic or directive; an operand is set off by a blank. -/
def readOperand? (t : Text) : Option (Text × Option Text) := do
  let remark ← readNote? (fromNote t)
  match beforeNote t with
  | [] => return ([], remark)
  | c :: r => if isBlank c then return (strip (c :: r), remark) else none

def readDirective? : Text → Option Record
  | '.' :: t => do
    let (name, t) ← run? isWord t
    let (operand, remark) ← readOperand? t
    return .directive { name := '.' :: name, operand, comment := remark }
  | _ => none

def readInstruction? (t : Text) : Option Record := do
  let (mnemonic, t) ← run? isWord t
  let (operand, remark) ← readOperand? t
  return .instruction (.ofText mnemonic operand remark)

/-- A word and a colon, and what follows. -/
def readName? (t : Text) : Option (Text × Text) := do
  match ← run? isWord t with
  | (name, ':' :: t) => return (name, t)
  | _ => none

/-- What follows at least one blank. -/
def indented? (t : Text) : Option Text := (run? isBlank t).map (·.2)

/-- The records of a line of the form. Blanks at the end of the line have been dropped. -/
def read? (form : Form) (t : Text) : Option (List Record) :=
  match form with
  | .blank => if t.all isBlank then some [.comment []] else none
  | .comment =>
    match stripStart t with
    | ';' :: r => if isOneLine r then some [.comment (strip r)] else none
    | _ => none
  | .definition => do
    let (name, t) ← run? isWord t
    match stripStart t with
    | '=' :: t =>
      let remark ← readNote? (fromNote t)
      return [.definition { name, literal := strip (beforeNote t), comment := remark }]
    | _ => none
  | .directive => do
    let d ← readDirective? (← indented? t)
    return [d]
  | .label => do
    let (name, t) ← readName? t
    let remark ← readNote? (stripStart t)
    return [.label { name, comment := remark }]
  | .labelledInstruction => do
    let (name, t) ← readName? t
    let i ← readInstruction? (← indented? t)
    return [.label { name }, i]
  | .labelledDirective => do
    let (name, t) ← readName? t
    let d ← readDirective? (← indented? t)
    return [.label { name }, d]
  | .instruction => do
    let i ← readInstruction? (← indented? t)
    return [i]

/-- The forms in the order in which they are tried. -/
def all : List Form :=
  [.blank, .comment, .definition, .directive, .label, .labelledInstruction, .labelledDirective,
   .instruction]

end Form

/-- The records of a line, or nothing if it has none of the forms. -/
def classify? (t : Text) : Option (List Record) :=
  Form.all.findSome? (·.read? (stripEnd t))

end AsmDispatch
