import AsmDispatch.Text.Numeral
import AsmDispatch.Text.Quoted
import AsmDispatch.Text.Utf8

/-! # Files

What can go wrong with a file, and the operations through which the command reaches the outside. -/

namespace AsmDispatch

namespace FileError

inductive Kind where
  | notFound
  | inputOutput
  | permissionDenied
  | notDirectory
  | isDirectory
  | nameTooLong
deriving DecidableEq, Repr

def Kind.code : Kind → Nat
  | .notFound => 2
  | .inputOutput => 5
  | .permissionDenied => 13
  | .notDirectory => 20
  | .isDirectory => 21
  | .nameTooLong => 36

def Kind.text : Kind → Text
  | .notFound => "No such file or directory"
  | .inputOutput => "Input/output error"
  | .permissionDenied => "Permission denied"
  | .notDirectory => "Not a directory"
  | .isDirectory => "Is a directory"
  | .nameTooLong => "File name too long"

end FileError

structure FileError where
  kind : FileError.Kind
  path : Text
deriving DecidableEq, Repr

def FileError.message (e : FileError) : Text :=
  "[Errno " ++ Text.decimal e.kind.code ++ "] " ++ e.kind.text ++ ": " ++ Text.quoted e.path

/-- Standard input and files, as far as the command needs them. -/
structure FileSystem (m : Type → Type) where
  standardInput : m Text.Bytes
  read : Text → m (Except FileError.Kind Text.Bytes)
  isDirectory : Text → m Bool
  write : Text → Text.Bytes → m (Except FileError.Kind Unit)

end AsmDispatch
