import AsmDispatch.Line.Basic

/-! # Slots

Instructions are numbered from zero in source order. Every other record takes the number of the next
instruction, but a data label keeps its address. -/

namespace AsmDispatch

namespace Line

/-- The slot after a line. -/
def nextSlot (slot : Nat) (l : Line) : Nat := if l.isInstruction then slot + 1 else slot

def stamp (slot : Nat) (l : Line) : Line := if l.isDataLabel then l else { l with slot := slot }

def stampFrom (slot : Nat) : List Line → List Line
  | [] => []
  | l :: ls => l.stamp slot :: stampFrom (l.nextSlot slot) ls

/-- Number the lines of a program. -/
def stampAll (ls : List Line) : List Line := stampFrom 0 ls

/-- The slot at which each line is met. -/
def slotsFrom (slot : Nat) : List Line → List Nat
  | [] => []
  | l :: ls => slot :: slotsFrom (l.nextSlot slot) ls

/-- The number of instructions, which is the slot after the last. -/
def slotCount (ls : List Line) : Nat := ls.countP isInstruction

@[simp] theorem length_stampFrom (slot : Nat) (ls : List Line) :
    (stampFrom slot ls).length = ls.length := by
  induction ls generalizing slot with
  | nil => rfl
  | cons l ls ih => simp [stampFrom, ih]

end Line

end AsmDispatch
