import AsmDispatch.Text.Blank
import AsmDispatch.Text.Case
import AsmDispatch.Text.Word

/-! # Operands

The shape of an operand tells its addressing mode, and the mode names the helper that carries the
instruction out. Which literal stands inside is left to the reader of literals. -/

namespace AsmDispatch

open Text (isBlank isWord strip stripEnd isOneLine lower)

/-- An operand by addressing mode. Registers are kept as written. -/
inductive Operand where
  | implied
  | immediate (literal : Text)
  /-- Written `(literal),register`. -/
  | postIndexed (literal register : Text)
  /-- Written `(literal,register)`. -/
  | preIndexed (literal register : Text)
  | indirect (literal : Text)
  | indexed (literal register : Text)
  | absolute (literal : Text)
deriving DecidableEq, Repr

namespace Operand

/-- The text between an opening parenthesis at the start and a closing one at the end. -/
def enclosed? : Text → Option Text
  | '(' :: t => if t.getLast? = some ')' then some t.dropLast else none
  | _ => none

/-- What stands in front of a comma and the word that ends the text, and that word. Blanks may stand
on both sides of the comma. -/
def beforeRegister? (t : Text) : Option (Text × Text) :=
  match t.reverse.takeWhile isWord, (t.reverse.dropWhile isWord).dropWhile isBlank with
  | w@(_ :: _), ',' :: r => some (stripEnd r.reverse, w.reverse)
  | _, _ => none

def postIndexed? (t : Text) : Option Operand := do
  let (outer, register) ← beforeRegister? t
  let literal ← enclosed? outer
  if isOneLine literal then return .postIndexed (strip literal) register else none

def preIndexed? (t : Text) : Option Operand := do
  let inner ← enclosed? t
  let (literal, register) ← beforeRegister? (stripEnd inner)
  if isOneLine literal then return .preIndexed (strip literal) register else none

def indirect? (t : Text) : Option Operand := do
  let literal ← enclosed? t
  if isOneLine literal then return .indirect (strip literal) else none

def indexed? (t : Text) : Option Operand := do
  let (literal, register) ← beforeRegister? t
  if isOneLine literal then return .indexed (strip literal) register else none

def ofText (t : Text) : Operand :=
  match strip t with
  | [] => .implied
  | '#' :: r => .immediate (strip r)
  | t =>
    (postIndexed? t <|> preIndexed? t <|> indirect? t <|> indexed? t).getD (.absolute t)

/-- The end of the helper's name. -/
def suffix : Operand → Text
  | .implied => []
  | .immediate _ => "_immediate"
  | .postIndexed _ r | .preIndexed _ r => "_indirect_" ++ lower r
  | .indirect _ => "_indirect"
  | .indexed _ r => "_" ++ lower r
  | .absolute _ => "_absolute"

def literal? : Operand → Option Text
  | .implied => none
  | .immediate l | .postIndexed l _ | .preIndexed l _ | .indirect l | .indexed l _ | .absolute l =>
    some l

end Operand

end AsmDispatch
