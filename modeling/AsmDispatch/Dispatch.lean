import AsmDispatch.Statement

/-! # The dispatch procedure

A procedure that takes a slot, carries out the instruction there and gives the next slot. Records
without code are echoed as comments between the instructions. -/

namespace AsmDispatch

/-- An item of the procedure's body. -/
inductive Entry where
  | blank
  /-- A comment that echoes a record, and the comment of that record. -/
  | echo (text : Text) (comment : Option Text)
  | step (slot : Nat) (statement : Statement) (comment : Option Text)
deriving DecidableEq, Repr

namespace Entry

def lines (h : Host) : Entry → List Text
  | .blank => [[]]
  | .echo text comment => [h.indent 1 ++ h.withComment (h.comment text) comment]
  | .step slot statement comment =>
    let code := (statement.linesWithComment h comment).map (h.indent 2 ++ ·)
    match h with
    | .javascript =>
      let n := Text.decimal slot
      (h.indent 1 ++ "pc=" ++ n ++ "; break; case " ++ n ++ ":") :: code
    | .python =>
      (h.indent 1 ++ "if pc == " ++ Text.decimal slot ++ ":") ::
        if statement.transfers then code
        else code ++ [h.indent 2 ++ "return " ++ Text.decimal (slot + 1)]

end Entry

/-- What a record without code leaves in the body. -/
def Line.echo (l : Line) : Entry :=
  match l.record with
  | .comment [] => .blank
  | .comment text => .echo text none
  | .directive d => .echo (Text.stripEnd (d.name ++ " " ++ d.operand)) d.comment
  | .label d =>
    let value := if d.isData then Text.hex l.slot else Text.decimal l.slot
    .echo (d.name ++ ": (" ++ value ++ ")") d.comment
  | .definition _ | .instruction _ => .blank

/-- The entry of a numbered line that is met at `slot`. -/
def Line.entry (h : Host) (symbols : Symbols) (slot : Nat) (l : Line) : Except Fault Entry :=
  match l.record with
  | .instruction i => return .step slot (← i.statement h symbols l.location) i.comment
  | _ => return l.echo

def Line.undefinedTarget? (h : Host) (symbols : Symbols) (l : Line) : Option Text :=
  match l.record with
  | .instruction i => i.undefinedTarget? h symbols l.location
  | _ => none

/-- The body of a procedure as far as it could be made, with the program numbered as far as that. -/
structure Body where
  lines : List Line
  warnings : List Text
  entries : Except Fault (List Entry)

namespace Body

/-- The body for the lines of a program from `slot` on. The first literal at fault ends it. -/
def ofLinesFrom (h : Host) (symbols : Symbols) (slot : Nat) : List Line → Body
  | [] => ⟨[], [], .ok []⟩
  | l :: ls =>
    let l := l.stamp slot
    let warnings := (l.undefinedTarget? h symbols).toList
    match l.entry h symbols slot with
    | .error f => ⟨l :: ls, warnings, .error f⟩
    | .ok e =>
      let rest := ofLinesFrom h symbols (l.nextSlot slot) ls
      ⟨l :: rest.lines, warnings ++ rest.warnings, rest.entries.map (e :: ·)⟩

def ofLines (h : Host) (symbols : Symbols) (ls : List Line) : Body := ofLinesFrom h symbols 0 ls

end Body

namespace Dispatch

/-- A blank line after another one is dropped; `blank` says whether the last line kept is blank. -/
def collapseAfter (blank : Bool) : List Text → List Text
  | [] => []
  | [] :: ls => if blank then collapseAfter true ls else [] :: collapseAfter true ls
  | l :: ls => l :: collapseAfter false ls

/-- Runs of blank lines become one line, and blank lines at the start are dropped. -/
def collapse (ls : List Text) : List Text := collapseAfter true ls

def opening (h : Host) (name : Text) : List Text :=
  match h with
  | .javascript =>
    ["function " ++ name ++ "(pc) \x7b", h.indent 1 ++ "switch (pc) \x7b",
     h.indent 1 ++ "case -1:  // Dummy"]
  | .python => ["def " ++ name ++ "(pc):"]

def closing (h : Host) (slotCount : Nat) : List Text :=
  match h with
  | .javascript =>
    let n := Text.decimal slotCount
    [h.indent 1 ++ "pc=" ++ n ++ "; case " ++ n ++ ": break", h.indent 1 ++ "\x7d",
     h.indent 1 ++ "return pc", "\x7d"]
  | .python => [h.indent 1 ++ "return pc"]

/-- The lines of the procedure. -/
def lines (h : Host) (name : Text) (slotCount : Nat) (entries : List Entry) : List Text :=
  opening h name ++ collapse (entries.flatMap (·.lines h)) ++ closing h slotCount

end Dispatch

end AsmDispatch
