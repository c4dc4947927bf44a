import AsmDispatch.Proofs.Dispatch.Step
import AsmDispatch.Proofs.Dispatch.Tidy

/-!
# The procedure as a switch

A switch is a list of commands with labels among them.  It is entered behind the label of the given
number, labels are passed over, and the commands run on into those of the next label until one
leaves.  A step has no jump of its own behind it: it runs into the header of the next step, which
sets the number of that step and leaves.

## Main statements

* `Switch.lines_ofEntries`: the printed switch of a body is the procedure that is emitted.
* `Switch.run_ofEntries`: it takes the step of the program.
-/

namespace AsmDispatch

namespace Switch

/-- The parts of a line of code. -/
inductive Command where
  | case (n : Int)
  | assign (target : Target)
  | leave
  | run (source : Text)
  | leaveIf (predicate : Text) (target : Target)
deriving DecidableEq, Repr

namespace Command

def text : Command → Text
  | .case n => "case " ++ Text.decimal n ++ ":"
  | .assign target => "pc=" ++ target.text
  | .leave => "break"
  | .run source => source
  | .leaveIf predicate target =>
    "if (" ++ predicate ++ ") \x7b pc=" ++ target.text ++ "; break \x7d"

/-- What stands between a command and the next one in its line. -/
def separator : Command → Text
  | .case _ => " "
  | _ => "; "

/-- The commands of a line. -/
def join : List Command → Text
  | [] => []
  | [c] => c.text
  | c :: cs => c.text ++ c.separator ++ join cs

end Command

/-- A line inside the switch. -/
inductive Row where
  | blank
  | note (text : Text) (comment : Option Text)
  | code (level : Nat) (commands : List Command) (comment : Option Text)
deriving DecidableEq, Repr

namespace Row

def text : Row → Text
  | .blank => []
  | .note t comment =>
    Host.javascript.indent 1 ++ Host.javascript.withComment (Host.javascript.comment t) comment
  | .code level commands comment =>
    Host.javascript.indent level ++ Host.javascript.withComment (Command.join commands) comment

def commands : Row → List Command
  | .code _ commands _ => commands
  | _ => []

end Row

end Switch

/-- A procedure that switches over its argument `pc` and gives `pc` back. -/
structure Switch where
  name : Text
  rows : List Switch.Row
deriving DecidableEq, Repr

namespace Switch

def lines (s : Switch) : List Text :=
  ["function " ++ s.name ++ "(pc) \x7b", Host.javascript.indent 1 ++ "switch (pc) \x7b"] ++
    s.rows.map Row.text ++
    [Host.javascript.indent 1 ++ "\x7d", Host.javascript.indent 1 ++ "return pc", "\x7d"]

def commands (s : Switch) : List Command := s.rows.flatMap Row.commands

section Semantics

variable {σ : Type} (m : Machine σ)

/-- Carry out commands until one leaves the switch. -/
def exec : List Command → Int → σ → Int × σ
  | [], pc, x => (pc, x)
  | .case _ :: cs, pc, x => exec cs pc x
  | .assign target :: cs, pc, x => exec cs (target.eval m pc x).1 (target.eval m pc x).2
  | .leave :: _, pc, x => (pc, x)
  | .run source :: cs, pc, x => exec cs pc (m.run source pc x)
  | .leaveIf predicate target :: cs, pc, x =>
    match m.test predicate pc x with
    | (true, y) => target.eval m pc y
    | (false, y) => exec cs pc y

/-- What stands behind the first label of a number. -/
def behind? (n : Int) : List Command → Option (List Command)
  | [] => none
  | .case k :: cs => if n = k then some cs else behind? n cs
  | _ :: cs => behind? n cs

/-- Enter commands behind the label `pc`; without that label nothing is carried out. -/
def enter (cs : List Command) (pc : Int) (x : σ) : Int × σ :=
  match behind? pc cs with
  | some cs => exec m cs pc x
  | none => (pc, x)

def run (s : Switch) (pc : Int) (x : σ) : Int × σ := enter m s.commands pc x

end Semantics

/-! ## Reading a body -/

def ofStatement : Statement → List Command
  | .plain source => [.run source]
  | .transfer target => [.assign (.expr target), .leave]
  | .branch predicate target => [.leaveIf predicate (.expr target)]

def ofEntry : Entry → List Row
  | .blank => [.blank]
  | .echo text comment => [.note text comment]
  | .step slot s comment =>
    [.code 1 [.assign (.slot slot), .leave, .case slot] none, .code 2 (ofStatement s) comment]

/-- The switch of a body: a label in front that leads to the first slot, and a last label behind. -/
def ofEntries (name : Text) (slotCount : Nat) (es : List Entry) : Switch where
  name := name
  rows := .code 1 [.case (-1)] (some "Dummy") :: es.flatMap ofEntry ++
    [.code 1 [.assign (.slot slotCount), .case slotCount, .leave] none]

theorem lines_ofStatement (s : Statement) (comment : Option Text) :
    s.linesWithComment .javascript comment =
      [Host.javascript.withComment (Command.join (ofStatement s)) comment] := by
  cases s with
  | plain source => rfl
  | transfer | branch =>
    simp [Statement.linesWithComment, Statement.lines, ofStatement, Command.join, Command.text,
      Command.separator, Target.text]

theorem lines_ofEntry (e : Entry) : (ofEntry e).map Row.text = e.lines .javascript := by
  cases e with
  | blank => rfl
  | echo text comment => rfl
  | step slot s comment =>
    rw [Entry.lines, lines_ofStatement]
    simp [ofEntry, Row.text, Command.join, Command.text, Command.separator, Target.text,
      Host.withComment]

theorem lines_opening (name : Text) :
    Dispatch.opening .javascript name =
      ["function " ++ name ++ "(pc) \x7b", Host.javascript.indent 1 ++ "switch (pc) \x7b",
        Row.text (.code 1 [.case (-1)] (some "Dummy"))] := rfl

theorem lines_closing (slotCount : Nat) :
    Dispatch.closing .javascript slotCount =
      [Row.text (.code 1 [.assign (.slot slotCount), .case slotCount, .leave] none),
        Host.javascript.indent 1 ++ "\x7d", Host.javascript.indent 1 ++ "return pc", "\x7d"] := by
  simp [Dispatch.closing, Row.text, Command.join, Command.text, Command.separator, Target.text,
    Host.withComment]

/-- What is emitted is the printed switch. -/
theorem lines_ofEntries (name : Text) (slotCount : Nat) (es : List Entry) :
    (ofEntries name slotCount (Entry.tidy es)).lines =
      Dispatch.lines .javascript name slotCount es := by
  have hbody : ((Entry.tidy es).flatMap ofEntry).map Row.text =
      (Entry.tidy es).flatMap (·.lines .javascript) := by
    rw [List.map_flatMap]
    exact congrArg (List.flatMap · (Entry.tidy es)) (funext lines_ofEntry)
  rw [Dispatch.lines, Entry.collapse_lines, ← hbody, lines_opening, lines_closing]
  simp [lines, ofEntries]

/-! ## The switch takes the step -/

section Refinement

variable {σ : Type} (m : Machine σ)

/-- The commands of a body and of the last label behind it. -/
def commandsOf (slotCount : Nat) (es : List Entry) : List Command :=
  (es.flatMap ofEntry).flatMap Row.commands ++
    [.assign (.slot slotCount), .case slotCount, .leave]

theorem commands_ofEntries (name : Text) (slotCount : Nat) (es : List Entry) :
    (ofEntries name slotCount es).commands = .case (-1) :: commandsOf slotCount es := by
  simp [commands, ofEntries, commandsOf, Row.commands]

theorem commandsOf_step (slotCount slot : Nat) (s : Statement) (comment : Option Text)
    (es : List Entry) :
    commandsOf slotCount (.step slot s comment :: es) =
      .assign (.slot slot) :: .leave :: .case slot ::
        (ofStatement s ++ commandsOf slotCount es) := by
  simp [commandsOf, ofEntry, Row.commands]

/-- Running into a body leads to its first slot, whatever stands there. -/
theorem exec_commandsOf {slot : Nat} {es : List Entry} (hes : Entry.NumberedFrom slot es)
    (pc : Int) (x : σ) :
    exec m (commandsOf (slot + (Entry.statements es).length) es) pc x = ((slot : Int), x) := by
  -- only the first header is reached, so the steps behind it do not matter
  induction es with
  | nil => rfl
  | cons e es ih =>
    cases e with
    | blank => exact ih hes
    | echo text comment => exact ih hes
    | step n s comment =>
      obtain ⟨rfl, -⟩ := hes
      rw [commandsOf_step]
      rfl

/-- A statement leaves for its target or runs into what follows. -/
theorem exec_ofStatement {slot : Nat} {cs : List Command}
    (hcs : ∀ x, exec m cs slot x = ((slot : Int) + 1, x)) (s : Statement) (x : σ) :
    exec m (ofStatement s ++ cs) slot x = s.step m slot x := by
  cases s with
  | plain source => exact hcs (m.run source slot x)
  | transfer target => rfl
  | branch predicate target =>
    rw [ofStatement, List.singleton_append, exec, Statement.step]
    rcases m.test predicate slot x with ⟨_ | _, y⟩
    · exact hcs y
    · rfl

theorem behind?_ofStatement (n : Int) (s : Statement) (cs : List Command) :
    behind? n (ofStatement s ++ cs) = behind? n cs := by
  cases s <;> rfl

theorem behind?_header (n k : Int) (target : Target) (cs : List Command) :
    behind? n (.assign target :: .leave :: .case k :: cs) =
      if n = k then some cs else behind? n cs := rfl

theorem enter_commandsOf {slot : Nat} {es : List Entry} (hes : Entry.NumberedFrom slot es)
    (pc : Int) (x : σ) :
    enter m (commandsOf (slot + (Entry.statements es).length) es) pc x =
      Statement.stepFrom m slot (Entry.statements es) pc x := by
  induction es generalizing slot with
  | nil =>
    change (match if pc = slot then some [Command.leave] else none with
      | some cs => exec m cs pc x
      | none => (pc, x)) = (pc, x)
    split_ifs
    · rfl
    · rfl
  | cons e es ih =>
    cases e with
    | blank => exact ih hes
    | echo text comment => exact ih hes
    | step n s comment =>
      obtain ⟨rfl, htail⟩ := hes
      have hcount : n + (Entry.statements (.step n s comment :: es)).length =
          n + 1 + (Entry.statements es).length := by
        change n + ((Entry.statements es).length + 1) = _
        omega
      -- a statement that does not leave runs into what follows, with its own slot still in `pc`
      have hnext : ∀ y, exec m (commandsOf (n + 1 + (Entry.statements es).length) es) n y =
          ((n : Int) + 1, y) := fun y => exec_commandsOf m htail n y
      rw [hcount, commandsOf_step, enter]
      change _ = if pc = n then s.step m pc x
        else Statement.stepFrom m (n + 1) (Entry.statements es) pc x
      rw [behind?_header, behind?_ofStatement]
      split_ifs with hpc
      · rw [hpc]
        exact exec_ofStatement m hnext s x
      · exact ih htail

theorem run_ofEntries {es : List Entry} (hes : Entry.NumberedFrom 0 es) (name : Text) (pc : Int)
    (x : σ) :
    (ofEntries name (Entry.statements es).length es).run m pc x =
      if pc = -1 then (0, x) else Statement.stepAt m (Entry.statements es) pc x := by
  have hexec := exec_commandsOf m hes pc x
  have henter := enter_commandsOf m hes pc x
  rw [Nat.zero_add] at hexec henter
  rw [run, commands_ofEntries, enter, behind?]
  split_ifs with hpc
  · exact hexec
  · rw [← Statement.stepFrom_zero]
    exact henter

end Refinement

end Switch

end AsmDispatch
