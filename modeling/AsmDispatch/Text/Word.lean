import AsmDispatch.Text.Digit
import AsmDispatch.Text.Letter
import AsmDispatch.Text.Number

/-! # Words -/

namespace AsmDispatch.Text

/-- Letters, digits and other numeric characters of any script, and the underscore. -/
def isWord (c : Char) : Bool :=
  if c.toNat < 0x80 then c.isAlphanum || c == '_'
  else letters.has c.toNat || isDigit c || numbers.has c.toNat

end AsmDispatch.Text
