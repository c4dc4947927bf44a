import AsmDispatch.Error

/-! # How the command ends -/

namespace AsmDispatch.Command

inductive Status where
  | success
  /-- A literal could not be read; nothing is written. -/
  | buildError
  /-- An option value, the configuration or a path is at fault. -/
  | invalidArguments
  | internalError
  /-- The command was given a text for a path that cannot be one, and stopped without a report. -/
  | aborted
deriving DecidableEq, Repr

def Status.code : Status → Nat
  | .success => 0
  | .buildError => 1
  | .invalidArguments => 2
  | .internalError => 3
  | .aborted => 1

/-- What made the command fail. -/
inductive Failure where
  | fault (f : Fault)
  /-- An error of the program that has no place in the source. -/
  | general (message : Text)
  | badParameter (message : Text)
  | fileNotFound (message : Text)
  | permissionDenied (message : Text)
  /-- Anything that was not foreseen. -/
  | unforeseen (message : Text)
deriving DecidableEq, Repr

namespace Failure

def ofError (e : Error) : Failure :=
  match e with
  | .fault f => .fault f
  | .file { kind := .notFound, .. } => .fileNotFound e.message
  | .file { kind := .permissionDenied, .. } => .permissionDenied e.message
  | _ => .unforeseen e.message

def message : Failure → Text
  | .fault f => f.message
  | .general m | .badParameter m | .fileNotFound m | .permissionDenied m | .unforeseen m => m

def status : Failure → Status
  | .fault { cause := .configuration _, .. } => .invalidArguments
  | .fault _ | .general _ => .buildError
  | .badParameter _ | .fileNotFound _ | .permissionDenied _ => .invalidArguments
  | .unforeseen _ => .internalError

end Failure

structure Outcome where
  status : Status
  stdout : Text := []
  stderr : Text := []
deriving DecidableEq, Repr

/-- Lines, each with its line feed. -/
def unlines (ls : List Text) : Text := ls.flatMap (· ++ ['\n'])

end AsmDispatch.Command
