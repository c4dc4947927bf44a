import AsmDispatch.Line.Basic
import AsmDispatch.Text.Numeral

/-! # Data regions

A label in front of byte directives, with nothing but labels between, names data. Regions get
consecutive addresses outside the numbering of instructions. Only the last label of a chain owns the
bytes; the others are aliases of no size. -/

namespace AsmDispatch

/-- The bytes behind a data label, as literals. -/
structure Region where
  name : Text
  address : Int
  items : List Text := []
  location : Option Location := none
deriving DecidableEq, Repr

namespace Region

def size (r : Region) : Nat := r.items.length

/-- The items of a directive's operand. -/
def splitItems (operand : Text) : List Text := (Text.pieces ',' operand).map Text.strip

/-- The items of a byte directive; none for other lines. -/
def itemsOf (l : Line) : List Text :=
  match l.record with
  | .directive d => splitItems d.operand
  | _ => []

/-- The items that a label owns by the lines behind it: those of the byte directives that follow at
once, none if labels come before such a directive. Without a result the label is no data label. -/
def itemsBehind? (ls : List Line) : Option (List Text) :=
  match ls.takeWhile Line.isByteData with
  | [] => if (ls.dropWhile Line.isLabel).head?.any Line.isByteData then some [] else none
  | ds => some (ds.flatMap itemsOf)

/-- Find the regions of a program from an address on, and flag and place their labels. -/
def analyze (address : Int) : List Line → List Line × List Region
  | [] => ([], [])
  | l :: ls =>
    match l.record, itemsBehind? ls with
    | .label d, some items =>
      let (ls, rs) := analyze (address + items.length) ls
      ({ l with record := .label { d with isData := true }, slot := address } :: ls,
        { name := d.name, address, items, location := l.location } :: rs)
    | _, _ =>
      let (ls, rs) := analyze address ls
      (l :: ls, rs)

def totalSize : List Region → Nat
  | [] => 0
  | r :: rs => r.size + totalSize rs

end Region

end AsmDispatch
