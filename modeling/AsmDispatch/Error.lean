import AsmDispatch.Fault
import AsmDispatch.File.Basic

/-! # What stops the work -/

namespace AsmDispatch

inductive Error where
  | fault (f : Fault)
  /-- A later pass over the program met another number of instructions than the first. -/
  | passMismatch (pass : Int) (found expected : Nat)
  | unknownHost (name : Text)
  /-- A number with too many digits to be written in decimal. -/
  | numeralTooLong
  | file (e : FileError)
  /-- A path with a null character in it. -/
  | nullInPath
  | undecodable (e : Text.Utf8.Error)
deriving DecidableEq, Repr

namespace Error

def message : Error → Text
  | .fault f => f.message
  | .passMismatch pass found expected =>
    "pass " ++ Text.decimal pass ++ " produced " ++ Text.decimal found ++
      " slots, pass 0 produced " ++ Text.decimal expected
  | .unknownHost name => Text.quoted name
  | .numeralTooLong =>
    "Exceeds the limit (" ++ Text.decimal Text.maxDecimalDigits ++
      " digits) for integer string conversion; " ++
      "use sys.set_int_max_str_digits() to increase the limit"
  | .file e => e.message
  | .nullInPath => "embedded null byte"
  | .undecodable e => e.message

end Error

end AsmDispatch
