import AsmDispatch.Text.Numeral

/-! # Places in the source -/

namespace AsmDispatch

/-- Lines and columns are counted from one. -/
structure Location where
  filename : Text
  line : Int
  column : Int := 1
deriving DecidableEq, Repr

namespace Location

def text (l : Location) : Text :=
  l.filename ++ ":" ++ Text.decimal l.line ++ ":" ++ Text.decimal l.column

/-- A message with its place in front, if it has one. -/
def label (location : Option Location) (message : Text) : Text :=
  match location with
  | some l => l.text ++ ": " ++ message
  | none => message

end Location

end AsmDispatch
