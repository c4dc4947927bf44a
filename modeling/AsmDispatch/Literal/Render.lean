import AsmDispatch.Literal.Basic
import AsmDispatch.Text.Numeral

/-! # Writing literal expressions for the host

Every numeral becomes hexadecimal. A chain inside a chain gets parentheses, so the host groups it as
the source does. -/

namespace AsmDispatch.Literal

/-- The value of a run of binary digits. -/
def binValue (ds : Text) : Nat := ds.foldl (fun n d => n * 2 + if d = '1' then 1 else 0) 0

def Atom.render : Atom → Text
  | .hex ds => "0x" ++ ds.map Char.toLower
  | .bin ds => Text.hex (binValue ds)
  | .word w => w
  | .low a => "LO(" ++ a.render ++ ")"
  | .high a => "HI(" ++ a.render ++ ")"

def Expr.render : Expr → Text
  | .atom a => a.render
  | .chain a o e =>
    a.render ++ [' ', o.symbol, ' '] ++ if e.isChain then "(" ++ e.render ++ ")" else e.render

end AsmDispatch.Literal
