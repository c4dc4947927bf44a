import AsmDispatch.Text.Case.Context
import AsmDispatch.Text.Case.Fold
import AsmDispatch.Text.Case.Lower
import AsmDispatch.Text.Case.Upper

/-! # Upper, lower and folded case

The full mappings, under which a character may become several. -/

namespace AsmDispatch.Text

def upperChar (c : Char) : Text :=
  if c.toNat < 0x80 then [c.toUpper] else (recase? upperShifts upperSpread c).getD [c]

/-- The small letter of a character, whatever stands around it. -/
def lowerChar (c : Char) : Text :=
  if c.toNat < 0x80 then [c.toLower] else (recase? lowerShifts lowerSpread c).getD [c]

def foldChar (c : Char) : Text :=
  if c.toNat < 0x80 then [c.toLower] else (recase? foldShifts foldSpread c).getD (lowerChar c)

/-- The nearest character that is not passed over has case. -/
def meetsCased (t : Text) : Bool :=
  match t.dropWhile (caseIgnorable.has ·.toNat) with
  | [] => false
  | c :: _ => cased.has c.toNat

/-- Lower case of a text that follows `before`, whose nearest character comes first. A capital
sigma takes its final form after a character with case and before none. -/
def lowerAfter (before : Text) : Text → Text
  | [] => []
  | c :: t =>
    (if c = 'Σ' then [if meetsCased before && !meetsCased t then 'ς' else 'σ'] else lowerChar c)
      ++ lowerAfter (c :: before) t

def upper (t : Text) : Text := t.flatMap upperChar

def lower (t : Text) : Text := lowerAfter [] t

def fold (t : Text) : Text := t.flatMap foldChar

end AsmDispatch.Text
