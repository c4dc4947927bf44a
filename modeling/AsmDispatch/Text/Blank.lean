import AsmDispatch.Text.Basic
import AsmDispatch.Text.Range

/-! # Blank characters and stripping -/

namespace AsmDispatch.Text

/-- White space, with the four separator controls and the next-line control. -/
def blanks : Ranges :=
  [(0x09, 0x0d), (0x1c, 0x20), (0x85, 0x85), (0xa0, 0xa0), (0x1680, 0x1680), (0x2000, 0x200a),
   (0x2028, 0x2029), (0x202f, 0x202f), (0x205f, 0x205f), (0x3000, 0x3000)]

def isBlank (c : Char) : Bool := blanks.has c.toNat

def stripStart (t : Text) : Text := t.dropWhile isBlank

def stripEnd (t : Text) : Text := (t.reverse.dropWhile isBlank).reverse

/-- A text without the blanks at its two ends. -/
def strip (t : Text) : Text := stripEnd (stripStart t)

@[simp] theorem stripStart_nil : stripStart [] = [] := rfl

@[simp] theorem stripEnd_nil : stripEnd [] = [] := rfl

@[simp] theorem strip_nil : strip [] = [] := rfl

end AsmDispatch.Text
