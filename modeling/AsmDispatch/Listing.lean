import AsmDispatch.Fault
import AsmDispatch.Line.Form

/-! # Listings

The lines of a source text, each either recognised or dropped. -/

namespace AsmDispatch

/-- The recognised lines of a source, and the faults of the others. -/
structure Listing where
  lines : List Line := []
  unknown : List Fault := []
deriving DecidableEq, Repr

namespace Listing

/-- The lines or the fault of one line of source text. -/
def readLine (location : Option Location) (t : Text) : Except Fault (List Line) :=
  match classify? t with
  | some rs => .ok (rs.map fun record => { record, location })
  | none => .error { cause := .unknownLine t, location }

/-- The listing of source lines of which the first has the given number. -/
def ofLinesFrom (filename : Text) (number : Nat) : List Text → Listing
  | [] => {}
  | t :: ts =>
    let rest := ofLinesFrom filename (number + 1) ts
    match readLine (some { filename, line := number }) (Text.dropLineEnd t) with
    | .ok ls => { rest with lines := ls ++ rest.lines }
    | .error f => { rest with unknown := f :: rest.unknown }

def ofLines (filename : Text) (ts : List Text) : Listing := ofLinesFrom filename 1 ts

end Listing

end AsmDispatch
