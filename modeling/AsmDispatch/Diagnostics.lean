import AsmDispatch.Fault

/-! # Diagnostics

What is reported beside the output and does not stop it: lines that were dropped and warnings. -/

namespace AsmDispatch

structure Diagnostics where
  dropped : List Fault := []
  warnings : List Text := []
deriving DecidableEq, Repr

namespace Diagnostics

def addFault (d : Diagnostics) (f : Fault) : Diagnostics := { d with dropped := d.dropped ++ [f] }

def addWarning (d : Diagnostics) (w : Text) : Diagnostics :=
  { d with warnings := d.warnings ++ [w] }

def isEmpty (d : Diagnostics) : Bool := d.dropped.isEmpty && d.warnings.isEmpty

/-- A number and a noun, which is plural unless the number is one. -/
def count (n : Nat) (noun : Text) : Text :=
  Text.decimal n ++ " " ++ noun ++ if n = 1 then [] else ['s']

def summary (d : Diagnostics) : Text :=
  count d.dropped.length "unrecognized line" ++ " dropped, " ++ count d.warnings.length "warning"

def warningLine (w : Text) : Text := "warning: " ++ w

/-- One entry per diagnostic and a summary. -/
def report (d : Diagnostics) : Text :=
  Text.joinLines (d.dropped.map Fault.message ++ d.warnings.map warningLine ++ [d.summary])

end Diagnostics

end AsmDispatch
