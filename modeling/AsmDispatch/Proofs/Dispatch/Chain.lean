import AsmDispatch.Proofs.Dispatch.Step
import AsmDispatch.Proofs.Dispatch.Tidy

/-!
# The procedure as a chain of tests

A chain compares `pc` with one number after the other and carries out the commands behind each test
that holds, until one gives a result.  A step gives the number of the next step itself, unless it
has given its target.

## Main statements

* `Chain.lines_ofEntries`: the printed chain of a body is the procedure that is emitted.
* `Chain.run_ofEntries`: it takes the step of the program.
-/

namespace AsmDispatch

namespace Chain

inductive Command where
  | run (source : Text)
  | give (target : Target)
  | giveIf (predicate : Text) (target : Target)
deriving DecidableEq, Repr

def Command.lines : Command → List Text
  | .run source => [source]
  | .give target => ["return " ++ target.text]
  | .giveIf predicate target =>
    ["if " ++ predicate ++ ":", Host.python.indent 1 ++ "return " ++ target.text]

/-- An item of the procedure's body; a test has a comment behind its first command. -/
inductive Item where
  | blank
  | note (text : Text) (comment : Option Text)
  | test (n : Nat) (commands : List Command) (comment : Option Text)
deriving DecidableEq, Repr

/-- A comment behind the first of some lines. -/
def withComment (comment : Option Text) : List Text → List Text
  | [] => []
  | l :: ls => Host.python.withComment l comment :: ls

def Item.lines : Item → List Text
  | .blank => [[]]
  | .note t comment =>
    [Host.python.indent 1 ++ Host.python.withComment (Host.python.comment t) comment]
  | .test n commands comment =>
    (Host.python.indent 1 ++ "if pc == " ++ Text.decimal n ++ ":") ::
      (withComment comment (commands.flatMap Command.lines)).map (Host.python.indent 2 ++ ·)

end Chain

/-- A procedure that tests its argument `pc`, and gives it back if no command gives a result. -/
structure Chain where
  name : Text
  items : List Chain.Item
deriving DecidableEq, Repr

namespace Chain

def lines (c : Chain) : List Text :=
  ["def " ++ c.name ++ "(pc):"] ++ c.items.flatMap Item.lines ++
    [Host.python.indent 1 ++ "return pc"]

section Semantics

variable {σ : Type} (m : Machine σ) (pc : Int)

/-- Carry out commands until one gives a result. -/
def exec : List Command → σ → Option Int × σ
  | [], x => (none, x)
  | .run source :: cs, x => exec cs (m.run source pc x)
  | .give target :: _, x => (some (target.eval m pc x).1, (target.eval m pc x).2)
  | .giveIf predicate target :: cs, x =>
    match m.test predicate pc x with
    | (true, y) => (some (target.eval m pc y).1, (target.eval m pc y).2)
    | (false, y) => exec cs y

def runItems : List Item → σ → Int × σ
  | [], x => (pc, x)
  | .blank :: is, x | .note .. :: is, x => runItems is x
  | .test n commands _ :: is, x =>
    if pc = n then
      match exec m pc commands x with
      | (some k, y) => (k, y)
      | (none, y) => runItems is y
    else runItems is x

def run (c : Chain) (x : σ) : Int × σ := runItems m pc c.items x

end Semantics

/-! ## Reading a body -/

/-- The commands of a statement at a slot. -/
def ofStatement (slot : Nat) : Statement → List Command
  | .plain source => [.run source, .give (.slot (slot + 1))]
  | .transfer target => [.give (.expr target)]
  | .branch predicate target => [.giveIf predicate (.expr target), .give (.slot (slot + 1))]

def ofEntry : Entry → Item
  | .blank => .blank
  | .echo text comment => .note text comment
  | .step slot s comment => .test slot (ofStatement slot s) comment

def ofEntries (name : Text) (es : List Entry) : Chain where
  name := name
  items := es.map ofEntry

theorem lines_ofEntry (e : Entry) : (ofEntry e).lines = e.lines .python := by
  cases e with
  | blank => rfl
  | echo text comment => rfl
  | step slot s comment =>
    cases s with
    | plain | transfer | branch =>
      simp [ofEntry, ofStatement, Item.lines, withComment, Command.lines, Target.text, Entry.lines,
        Statement.linesWithComment, Statement.lines, Statement.transfers]

/-- What is emitted is the printed chain. -/
theorem lines_ofEntries (name : Text) (slotCount : Nat) (es : List Entry) :
    (ofEntries name (Entry.tidy es)).lines = Dispatch.lines .python name slotCount es := by
  have hbody : ((Entry.tidy es).map ofEntry).flatMap Item.lines =
      (Entry.tidy es).flatMap (·.lines .python) := by
    rw [List.flatMap_map]
    exact congrArg (List.flatMap · (Entry.tidy es)) (funext lines_ofEntry)
  rw [Dispatch.lines, Entry.collapse_lines, ← hbody]
  rfl

/-! ## The chain takes the step -/

section Refinement

variable {σ : Type} (m : Machine σ)

/-- A statement always gives a result: that of its step. -/
theorem exec_ofStatement (slot : Nat) (s : Statement) (x : σ) :
    exec m slot (ofStatement slot s) x =
      (some (s.step m slot x).1, (s.step m slot x).2) := by
  cases s with
  | plain source => rfl
  | transfer target => rfl
  | branch predicate target =>
    rw [ofStatement, exec, Statement.step]
    rcases m.test predicate slot x with ⟨_ | _, y⟩
    · rfl
    · rfl

theorem runItems_ofEntry {slot : Nat} {es : List Entry} (hes : Entry.NumberedFrom slot es)
    (pc : Int) (x : σ) :
    runItems m pc (es.map ofEntry) x =
      Statement.stepFrom m slot (Entry.statements es) pc x := by
  induction es generalizing slot with
  | nil => rfl
  | cons e es ih =>
    cases e with
    | blank => exact ih hes
    | echo text comment => exact ih hes
    | step n s comment =>
      obtain ⟨rfl, htail⟩ := hes
      change _ = if pc = n then s.step m pc x
        else Statement.stepFrom m (n + 1) (Entry.statements es) pc x
      rw [List.map_cons, ofEntry, runItems]
      split_ifs with hpc
      · rw [hpc, exec_ofStatement]
      · exact ih htail

theorem run_ofEntries {es : List Entry} (hes : Entry.NumberedFrom 0 es) (name : Text) (pc : Int)
    (x : σ) :
    (ofEntries name es).run m pc x = Statement.stepAt m (Entry.statements es) pc x := by
  rw [← Statement.stepFrom_zero]
  exact runItems_ofEntry m hes pc x

end Refinement

end Chain

end AsmDispatch
