import AsmDispatch.Text.Basic

/-! # Case changes as shifts of code points -/

namespace AsmDispatch.Text

/-- Every `stride`-th code point from `first` to `last` moves by `offset`. -/
structure Shift where
  first : Nat
  last : Nat
  stride : Nat
  offset : Int
deriving DecidableEq, Repr

def Shift.move? (s : Shift) (n : Nat) : Option Nat :=
  if s.first ≤ n ∧ n ≤ s.last ∧ (n - s.first) % s.stride = 0 then some (n + s.offset).toNat
  else none

/-- What a character becomes: a sequence if `spread` lists it, else what the first shift gives. -/
def recase? (shifts : List Shift) (spread : List (Nat × List Nat)) (c : Char) : Option Text :=
  match spread.lookup c.toNat with
  | some ns => some (ns.map Char.ofNat)
  | none => (shifts.findSome? (·.move? c.toNat)).map fun n => [Char.ofNat n]

end AsmDispatch.Text
