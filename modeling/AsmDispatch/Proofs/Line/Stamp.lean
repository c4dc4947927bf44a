import AsmDispatch.Line.Slot
import AsmDispatch.Region

/-!
# What numbering and analysis leave alone

Numbering changes slots only, and the analysis of data only flags labels and places them.  So the
instructions, the definitions and the names of the labels are the same before and after.
-/

namespace AsmDispatch

namespace Line

/-- The instruction of a line, with its place. -/
def instruction? (l : Line) : Option (Option Location × Instruction) :=
  match l.record with
  | .instruction i => some (l.location, i)
  | _ => none

/-- The instructions of a program in order. -/
def instructions (ls : List Line) : List (Option Location × Instruction) :=
  ls.filterMap instruction?

/-- The definition of a line, with its place. -/
def definition? (l : Line) : Option (Option Location × Definition) :=
  match l.record with
  | .definition d => some (l.location, d)
  | _ => none

/-- The definitions of a program in order. -/
def definitions (ls : List Line) : List (Option Location × Definition) :=
  ls.filterMap definition?

/-- The names of the definitions of a program, in order and with their repetitions. -/
def definitionNames (ls : List Line) : List Text := (definitions ls).map (·.2.name)

/-- The name of a label, with its place. -/
def label? (l : Line) : Option (Option Location × Text) :=
  match l.record with
  | .label d => some (l.location, d.name)
  | _ => none

/-- The labels of a program in order. -/
def labels (ls : List Line) : List (Option Location × Text) := ls.filterMap label?

/-- The name of a label. -/
def labelName? (l : Line) : Option Text :=
  match l.record with
  | .label d => some d.name
  | _ => none

/-- The names of the labels of a program, in order and with their repetitions. -/
def labelNames (ls : List Line) : List Text := ls.filterMap labelName?

@[simp] theorem record_stamp (slot : Nat) (l : Line) : (l.stamp slot).record = l.record := by
  unfold stamp
  split <;> rfl

@[simp] theorem location_stamp (slot : Nat) (l : Line) : (l.stamp slot).location = l.location := by
  unfold stamp
  split <;> rfl

@[simp] theorem isInstruction_stamp (slot : Nat) (l : Line) :
    (l.stamp slot).isInstruction = l.isInstruction := by
  simp [isInstruction]

@[simp] theorem isDataLabel_stamp (slot : Nat) (l : Line) :
    (l.stamp slot).isDataLabel = l.isDataLabel := by
  simp [isDataLabel]

theorem stamp_of_not_isDataLabel {l : Line} (h : l.isDataLabel = false) (slot : Nat) :
    l.stamp slot = { l with slot := slot } := by
  rw [stamp, h, if_neg Bool.false_ne_true]

theorem stamp_of_isDataLabel {l : Line} (h : l.isDataLabel = true) (slot : Nat) :
    l.stamp slot = l := by
  rw [stamp, if_pos h]

theorem stamp_stamp (slot : Nat) (l : Line) : (l.stamp slot).stamp slot = l.stamp slot := by
  cases hl : l.isDataLabel with
  | true => rw [stamp_of_isDataLabel hl, stamp_of_isDataLabel hl]
  | false =>
    rw [stamp_of_not_isDataLabel hl]
    exact stamp_of_not_isDataLabel (l := { l with slot := slot }) hl slot

@[simp] theorem nextSlot_stamp (slot k : Nat) (l : Line) :
    (l.stamp slot).nextSlot k = l.nextSlot k := by
  simp [nextSlot]

@[simp] theorem instruction?_stamp (slot : Nat) (l : Line) :
    (l.stamp slot).instruction? = l.instruction? := by
  simp [instruction?]

theorem isInstruction_eq_isSome (l : Line) : l.isInstruction = l.instruction?.isSome := by
  unfold isInstruction instruction?
  cases l.record <;> rfl

theorem instructions_cons_of_record {l : Line} {i : Instruction} (h : l.record = .instruction i)
    (ls : List Line) : instructions (l :: ls) = (l.location, i) :: instructions ls := by
  simp [instructions, instruction?, h]

theorem instructions_cons_of_not {l : Line} (h : l.isInstruction = false) (ls : List Line) :
    instructions (l :: ls) = instructions ls := by
  rw [isInstruction_eq_isSome, Option.isSome_eq_false_iff, Option.isNone_iff_eq_none] at h
  rw [instructions, List.filterMap_cons_none h, instructions]

theorem length_instructions (ls : List Line) : (instructions ls).length = slotCount ls := by
  rw [instructions, List.length_filterMap_eq_countP, slotCount]
  exact List.countP_congr fun l _ => by rw [isInstruction_eq_isSome]

theorem stampFrom_stampFrom (slot : Nat) (ls : List Line) :
    stampFrom slot (stampFrom slot ls) = stampFrom slot ls := by
  induction ls generalizing slot with
  | nil => rfl
  | cons l ls ih => rw [stampFrom, stampFrom, stamp_stamp, nextSlot_stamp, ih]

/-- Numbering keeps what does not depend on slots. -/
theorem filterMap_stampFrom {α : Type} {f : Line → Option α}
    (hf : ∀ slot l, f (Line.stamp slot l) = f l) (slot : Nat) (ls : List Line) :
    (stampFrom slot ls).filterMap f = ls.filterMap f := by
  induction ls generalizing slot with
  | nil => rfl
  | cons l ls ih => rw [stampFrom, List.filterMap_cons, List.filterMap_cons, hf, ih]

theorem instructions_stampFrom (slot : Nat) (ls : List Line) :
    instructions (stampFrom slot ls) = instructions ls :=
  filterMap_stampFrom instruction?_stamp slot ls

theorem definitions_cons (l : Line) (ls : List Line) :
    definitions (l :: ls) = l.definition?.toList ++ definitions ls := by
  unfold definitions
  cases hdefinition : l.definition? with
  | none =>
    rw [List.filterMap_cons_none hdefinition]
    rfl
  | some q =>
    rw [List.filterMap_cons_some hdefinition]
    rfl

theorem definitions_stampFrom (slot : Nat) (ls : List Line) :
    definitions (stampFrom slot ls) = definitions ls :=
  filterMap_stampFrom (fun slot l => by simp [definition?]) slot ls

theorem slotCount_cons (l : Line) (ls : List Line) (slot : Nat) :
    slot + slotCount (l :: ls) = l.nextSlot slot + slotCount ls := by
  simp only [nextSlot, slotCount, List.countP_cons]
  split <;> omega

/-- Lines behind a part of a program are numbered from the end of that part on. -/
theorem stampFrom_append (slot : Nat) (xs ys : List Line) :
    stampFrom slot (xs ++ ys) = stampFrom slot xs ++ stampFrom (slot + slotCount xs) ys := by
  induction xs generalizing slot with
  | nil => rfl
  | cons l xs ih =>
    rw [List.cons_append, stampFrom, ih, stampFrom, List.cons_append, slotCount_cons]

/-- The line at a place is numbered by the instructions in front of it. -/
theorem getElem?_stampFrom (slot : Nat) (ls : List Line) (i : Nat) :
    (stampFrom slot ls)[i]? = ls[i]?.map (stamp (slot + slotCount (ls.take i))) := by
  induction ls generalizing slot i with
  | nil => rfl
  | cons l ls ih =>
    cases i with
    | zero => rfl
    | succ i =>
      rw [stampFrom, List.getElem?_cons_succ, ih, List.getElem?_cons_succ, List.take_succ_cons,
        slotCount_cons]

theorem drop_stampFrom (slot : Nat) (ls : List Line) (i : Nat) :
    (stampFrom slot ls).drop i = stampFrom (slot + slotCount (ls.take i)) (ls.drop i) := by
  induction ls generalizing slot i with
  | nil => rw [stampFrom, List.drop_nil, stampFrom]
  | cons l ls ih =>
    cases i with
    | zero => rfl
    | succ i =>
      rw [stampFrom, List.drop_succ_cons, ih, List.drop_succ_cons, List.take_succ_cons,
        slotCount_cons]

/-- Numbering a program does not change how many slots it has. -/
theorem slotCount_stampFrom (slot : Nat) (ls : List Line) :
    slotCount (stampFrom slot ls) = slotCount ls := by
  rw [← length_instructions, instructions_stampFrom, length_instructions]

end Line

namespace Region

/-- The analysis keeps what does not depend on the flags and places of labels. -/
theorem filterMap_analyze {α : Type} {f : Line → Option α}
    (hf : ∀ (l : Line) (d : Label) (a : Int), l.record = .label d →
      f { l with record := .label { d with isData := true }, slot := a } = f l)
    (address : Int) (ls : List Line) : (analyze address ls).1.filterMap f = ls.filterMap f := by
  induction ls generalizing address with
  | nil => rfl
  | cons l ls ih =>
    rw [analyze]
    split
    · next d items hl _ =>
      simp only [List.filterMap_cons, ih, hf l d address hl]
    · simp only [List.filterMap_cons, ih]

theorem instructions_analyze (address : Int) (ls : List Line) :
    Line.instructions (analyze address ls).1 = Line.instructions ls :=
  filterMap_analyze (fun l d a hl => by simp [Line.instruction?, hl]) address ls

theorem definitions_analyze (address : Int) (ls : List Line) :
    Line.definitions (analyze address ls).1 = Line.definitions ls :=
  filterMap_analyze (fun l d a hl => by simp [Line.definition?, hl]) address ls

theorem labels_analyze (address : Int) (ls : List Line) :
    Line.labels (analyze address ls).1 = Line.labels ls :=
  filterMap_analyze (fun l d a hl => by simp [Line.label?, hl]) address ls

theorem labelNames_analyze (address : Int) (ls : List Line) :
    Line.labelNames (analyze address ls).1 = Line.labelNames ls :=
  filterMap_analyze (fun l d a hl => by simp [Line.labelName?, hl]) address ls

theorem slotCount_analyze (address : Int) (ls : List Line) :
    Line.slotCount (analyze address ls).1 = Line.slotCount ls := by
  rw [← Line.length_instructions, instructions_analyze, Line.length_instructions]

end Region

end AsmDispatch
