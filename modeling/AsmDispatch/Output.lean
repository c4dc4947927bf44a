import AsmDispatch.Dispatch
import AsmDispatch.Region

/-! # The generated source

Five blocks: the slots of code labels, definitions, the addresses of data labels, the table of data,
and the dispatch procedure. -/

namespace AsmDispatch

/-- The blocks by their lines. -/
structure Output where
  labels : List Text
  definitions : List Text
  addresses : List Text
  data : List Text
  dispatch : List Text
deriving DecidableEq, Repr

namespace Output

def blocks (o : Output) : List Text :=
  [o.labels, o.definitions, o.addresses, o.data, o.dispatch].map Text.joinLines

/-- The blocks with an empty line between neighbours. -/
def text (o : Output) : Text := Text.join "\n\n" o.blocks ++ "\n"

/-- The names of a program that are code labels now, each with its slot. -/
def codeLabel? (symbols : Symbols) (l : Line) : Option (Text × Nat) :=
  match l.record with
  | .label d => if d.isData then none else (symbols.codeLabels.get? d.name).map (d.name, ·)
  | _ => none

def labelLines (h : Host) (symbols : Symbols) (ls : List Line) : List Text :=
  h.comment "Labels" ::
    (ls.filterMap (codeLabel? symbols)).eraseDups.map fun e => h.constant e.1 (Text.decimal e.2)

/-- The declaration of a definition; other lines declare nothing. -/
def definitionLine? (h : Host) (l : Line) : Except Fault (List Text) :=
  match l.record with
  | .definition d => do
    let value ← Literal.format d.literal l.location
    return [h.withComment (h.constant d.name value) d.comment]
  | _ => .ok []

def definitionLines (h : Host) (ls : List Line) : Except Fault (List Text) :=
  return h.comment "Definitions" :: (← ls.mapM (definitionLine? h)).flatten

/-- A region whose name stands for its address; a name that was given up stands for none. -/
def isCurrent (symbols : Symbols) (r : Region) : Bool :=
  symbols.dataLabels.get? r.name == some r.address

def addressLines (h : Host) (symbols : Symbols) (rs : List Region) : List Text :=
  h.comment "Rom data addresses" ::
    ((rs.filter (isCurrent symbols)).map fun r => (r.name, r.address)).eraseDups.map fun e =>
      h.constant e.1 (Text.hex e.2)

/-- The items of a region as host expressions. -/
def regionValues (r : Region) : Except Fault (List Text) :=
  r.items.mapM (Literal.format · r.location)

def regionLines (h : Host) (r : Region) : Except Fault (List Text) := do
  let values ← regionValues r
  let group := if r.size = 0 then h.comment "Empty" else Text.join ", " values ++ ","
  return [h.indent 1 ++ h.comment (r.name ++ ": " ++ Text.hex r.address), h.indent 1 ++ group]

def dataLines (h : Host) (name : Text) (rs : List Region) : Except Fault (List Text) := do
  let groups ← rs.mapM (regionLines h)
  let total := h.comment ("Total size: " ++ Text.decimal (Region.totalSize rs))
  return [h.comment "Rom data", h.constant name "["] ++ groups.flatten ++ ["]  " ++ total]

end Output

end AsmDispatch
