import AsmDispatch.Text.Basic

/-! # Literal expressions

An expression is an atom, or an atom, an operator and the rest of the expression. Operators have no
precedence: everything to the right of one is its right operand. -/

namespace AsmDispatch.Literal

inductive Operator where
  | add
  | sub
  | mul
  | div
deriving DecidableEq, Repr

namespace Operator

def symbol : Operator → Char
  | .add => '+'
  | .sub => '-'
  | .mul => '*'
  | .div => '/'

def ofSymbol? (c : Char) : Option Operator :=
  if c = '+' then some .add
  else if c = '-' then some .sub
  else if c = '*' then some .mul
  else if c = '/' then some .div
  else none

@[simp] theorem ofSymbol?_symbol (o : Operator) : ofSymbol? o.symbol = some o := by
  cases o <;> rfl

theorem ofSymbol?_eq_some_iff {c : Char} {o : Operator} : ofSymbol? c = some o ↔ c = o.symbol := by
  constructor
  · unfold ofSymbol?
    cases o <;> simp only [symbol] <;> repeat' split
    all_goals simp_all
  · rintro rfl
    simp

end Operator

/-- A numeral, a word, or one byte of another atom. -/
inductive Atom where
  | hex (digits : Text)
  | bin (digits : Text)
  | word (name : Text)
  | low (of : Atom)
  | high (of : Atom)
deriving DecidableEq, Repr

inductive Expr where
  | atom (a : Atom)
  | chain (left : Atom) (op : Operator) (right : Expr)
deriving DecidableEq, Repr

/-- Whether an operator stands at the top. -/
def Expr.isChain : Expr → Bool
  | .atom _ => false
  | .chain .. => true

end AsmDispatch.Literal
