import AsmDispatch.Fault
import AsmDispatch.Literal.Render
import AsmDispatch.Literal.Scan

/-! # From source literals to host expressions -/

namespace AsmDispatch.Literal

/-- The host expression for a literal, or the fault at its place. -/
def format (t : Text) (location : Option Location) (sourceLine : Option Text := none) :
    Except Fault Text :=
  match parse t with
  | .ok e => .ok e.render
  | .error r => .error { cause := .illegalExpression t r, location, sourceLine }

end AsmDispatch.Literal
