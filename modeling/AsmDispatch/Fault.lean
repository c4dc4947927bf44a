import AsmDispatch.Location

/-! # Faults of the source and of the configuration -/

namespace AsmDispatch

inductive Severity where
  | error
  | warning
deriving DecidableEq, Repr

def Severity.text : Severity → Text
  | .error => "error"
  | .warning => "warning"

/-- What is wrong. -/
inductive Cause where
  /-- A literal that is no expression, and the part of it that could not be read. -/
  | illegalExpression (literal remainder : Text)
  /-- A line of none of the known forms. -/
  | unknownLine (line : Text)
  | configuration (message : Text)
  | other (message : Text)
deriving DecidableEq, Repr

namespace Cause

def severity : Cause → Severity
  | .unknownLine _ => .warning
  | _ => .error

def description : Cause → Text
  | .illegalExpression literal remainder =>
    "illegal expression '" ++ literal ++ "' (unparsed: '" ++ remainder ++ "')"
  | .unknownLine line => "unknown line: " ++ line
  | .configuration message | .other message => message

end Cause

/-- What is wrong and where. -/
structure Fault where
  cause : Cause
  location : Option Location := none
  hint : Option Text := none
  sourceLine : Option Text := none
deriving DecidableEq, Repr

namespace Fault

/-- The line of the fault and a caret under its column; only a fault with a place shows them. -/
def excerpt (f : Fault) : List Text :=
  match f.location, f.sourceLine with
  | some l, some line =>
    (Text.spaces 4 ++ line) ::
      if 0 < l.column then [Text.spaces (l.column + 3).toNat ++ "^"] else []
  | _, _ => []

def advice (f : Fault) : List Text :=
  match f.hint with
  | none | some [] => []
  | some hint => ["hint: " ++ hint]

def message (f : Fault) : Text :=
  Text.joinLines <|
    Location.label f.location (f.cause.severity.text ++ ": " ++ f.cause.description) ::
      (f.excerpt ++ f.advice)

end Fault

end AsmDispatch
