import AsmDispatch.Proofs.Line.Label
import AsmDispatch.Symbols
import Mathlib.Data.List.Basic

/-!
# The last label counts

Entering a label gives up every earlier label of the same name, in both tables, and leaves the other
names alone.  So after a whole program a name stands for what its last label says, and for nothing
if it has no label.

## Main statements

* `Symbols.labelValues_declare`: what entering one line does to a name.
* `Symbols.labelValues_collect_of_isLastLabel`: what a name stands for after a program.
* `Symbols.has_collect_iff`, `Symbols.warnings_collect`: which names are known after a program, and
  which labels are reported.
-/

namespace AsmDispatch

namespace Table

variable {α : Type}

theorem get?_cons (e : Text × α) (t : Table α) (other : Text) :
    Table.get? (e :: t) other = if other = e.1 then some e.2 else t.get? other := by
  unfold get?
  rw [List.lookup_cons]
  split_ifs with h
  · rw [h, beq_self_eq_true]
  · rw [beq_eq_false_iff_ne.mpr h]

theorem get?_erase (t : Table α) (name other : Text) :
    (t.erase name).get? other = if other = name then none else t.get? other := by
  induction t with
  | nil => split_ifs <;> rfl
  | cons e t ih =>
    unfold erase at ih ⊢
    by_cases he : e.1 = name
    · rw [List.filter_cons_of_neg (by simp [he]), ih, get?_cons, he]
      split_ifs <;> rfl
    · rw [List.filter_cons_of_pos (by simp [he]), get?_cons, get?_cons, ih]
      split_ifs with hother hname
      · exact absurd (hother.symm.trans hname) he
      · rfl
      · rfl
      · rfl

theorem get?_eq_none_iff (t : Table α) (name : Text) :
    t.get? name = none ↔ t.has name = false := by
  rw [get?, List.lookup_eq_none_iff, has, List.any_eq_false]
  refine forall₂_congr fun e _ => ?_
  rw [bne_iff_ne, beq_iff_eq, ne_comm]

theorem has_eq_isSome_get? (t : Table α) (name : Text) : t.has name = (t.get? name).isSome := by
  cases hget : t.get? name with
  | none => exact (t.get?_eq_none_iff name).mp hget
  | some a =>
    refine Bool.of_not_eq_false fun hhas => ?_
    rw [(t.get?_eq_none_iff name).mpr hhas] at hget
    cases hget

theorem get?_set (t : Table α) (name : Text) (a : α) (other : Text) :
    (t.set name a).get? other = if other = name then some a else t.get? other := by
  unfold set
  split_ifs with hhas hother hother
  · -- the first entry of the name is overwritten, and no entry in front of it has the name
    subst hother
    induction t with
    | nil => cases hhas
    | cons e t ih =>
      rw [List.map_cons, get?_cons]
      by_cases he : e.1 = other
      · simp [he]
      · rw [if_neg (by simp [he, Ne.symm he]), ih (by simpa [has, he] using hhas)]
  · clear hhas
    induction t with
    | nil => rfl
    | cons e t ih =>
      rw [List.map_cons, get?_cons, get?_cons, ih]
      by_cases he : e.1 = name
      · simp [he, hother]
      · simp [he]
  · have hnone := (t.get?_eq_none_iff name).mpr (Bool.eq_false_iff.mpr hhas)
    unfold get? at hnone ⊢
    rw [List.lookup_append, hother, hnone, List.lookup_cons_self, Option.none_or]
  · unfold get?
    rw [List.lookup_append, List.lookup_cons, beq_eq_false_iff_ne.mpr hother, List.lookup_nil,
      Option.or_none]

end Table

namespace Symbols

variable {s : Symbols} {slot : Nat} {l : Line} {ls before behind : List Line} {name : Text}

/-- What a name stands for: its slot as a code label, and its address as a data label. -/
def labelValues (s : Symbols) (name : Text) : Option Nat × Option Int :=
  (s.codeLabels.get? name, s.dataLabels.get? name)

/-- What a label that is met at a slot stands for. -/
def valuesOf (slot : Nat) (l : Line) : Option Nat × Option Int :=
  if l.isDataLabel then (none, some l.slot) else (some slot, none)

/-- A label takes over its name and no other; other lines take over no name. -/
theorem labelValues_declare (s : Symbols) (slot : Nat) (l : Line) (name : Text) :
    (s.declare slot l).labelValues name =
      if l.labelName? = some name then valuesOf slot l else s.labelValues name := by
  unfold declare Line.labelName? valuesOf Line.isDataLabel labelValues
  cases hl : l.record with
  | label d =>
    simp only [addLabel, Option.some.injEq]
    by_cases hd : d.isData = true
    · simp only [hd, if_true, Table.get?_set, Table.get?_erase, eq_comm (a := name)]
      split_ifs <;> rfl
    · simp only [hd, Bool.false_eq_true, if_false, Table.get?_set, Table.get?_erase,
        eq_comm (a := name)]
      split_ifs <;> rfl
  | definition d => rfl
  | comment | directive | instruction => rfl

theorem labelValues_collectFrom_of_not_mem (hname : name ∉ Line.labelNames ls) (slot : Nat)
    (s : Symbols) : (collectFrom slot s ls).1.labelValues name = s.labelValues name := by
  induction ls generalizing slot s with
  | nil => rfl
  | cons l ls ih =>
    have htail : name ∉ Line.labelNames ls := by
      intro hmem
      obtain ⟨m, hm, hmname⟩ := Line.mem_labelNames_iff.mp hmem
      exact hname (Line.mem_labelNames_iff.mpr ⟨m, List.mem_cons_of_mem _ hm, hmname⟩)
    have hhead : l.labelName? ≠ some name := fun hl =>
      hname (Line.mem_labelNames_iff.mpr ⟨l, List.mem_cons_self, hl⟩)
    change (collectFrom (l.nextSlot slot) (s.declare slot l) ls).1.labelValues name = _
    rw [ih htail, labelValues_declare, if_neg hhead]

/-- Declarations behind a part of a program are entered into what that part has left. -/
theorem collectFrom_append (slot : Nat) (s : Symbols) (xs ys : List Line) :
    (collectFrom slot s (xs ++ ys)).1 =
      (collectFrom (slot + Line.slotCount xs) (collectFrom slot s xs).1 ys).1 := by
  induction xs generalizing slot s with
  | nil => rfl
  | cons l xs ih =>
    change (collectFrom (l.nextSlot slot) (s.declare slot l) (xs ++ ys)).1 = _
    rw [ih, ← Line.slotCount_cons]
    rfl

theorem labelValues_collect_of_isLastLabel (h : Line.IsLastLabel ls name before l behind) :
    (collect ls).1.labelValues name = valuesOf (Line.slotCount before) l := by
  rw [collect, h.eq_append, collectFrom_append, Nat.zero_add]
  change (collectFrom _ ((collectFrom 0 {} before).1.declare _ l) behind).1.labelValues name = _
  rw [labelValues_collectFrom_of_not_mem h.not_mem_behind, labelValues_declare,
    if_pos h.labelName]

theorem labelValues_collect_of_not_mem (h : name ∉ Line.labelNames ls) :
    (collect ls).1.labelValues name = (none, none) :=
  labelValues_collectFrom_of_not_mem h 0 {}

/-! ## Known names -/

theorem hasLabel_eq_true_iff (s : Symbols) (name : Text) :
    s.hasLabel name = true ↔ s.labelValues name ≠ (none, none) := by
  unfold hasLabel labelValues
  rw [Table.has_eq_isSome_get?, Table.has_eq_isSome_get?]
  cases s.codeLabels.get? name <;> cases s.dataLabels.get? name <;> simp

theorem hasLabel_declare (s : Symbols) (slot : Nat) (l : Line) (name : Text) :
    (s.declare slot l).hasLabel name = true ↔
      l.labelName? = some name ∨ s.hasLabel name = true := by
  simp only [hasLabel_eq_true_iff, labelValues_declare]
  by_cases hname : l.labelName? = some name
  · have hvalues : valuesOf slot l ≠ (none, none) := by
      unfold valuesOf
      split_ifs <;> simp
    simp [hname, hvalues]
  · simp [hname]

theorem hasLabel_collectFrom (slot : Nat) (s : Symbols) (ls : List Line) (name : Text) :
    (collectFrom slot s ls).1.hasLabel name = true ↔
      name ∈ Line.labelNames ls ∨ s.hasLabel name = true := by
  induction ls generalizing slot s with
  | nil => simp [collectFrom, Line.labelNames]
  | cons l ls ih =>
    change (collectFrom (l.nextSlot slot) (s.declare slot l) ls).1.hasLabel name = true ↔ _
    rw [ih, hasLabel_declare, Line.labelNames, Line.labelNames, List.filterMap_cons, ← or_assoc]
    cases l.labelName? with
    | none => simp
    | some other =>
      simp only [Option.some.injEq, List.mem_cons]
      rw [or_comm (a := name = other), eq_comm]

theorem definitions_declare (s : Symbols) (slot : Nat) (l : Line) (name : Text) :
    (s.declare slot l).definitions.has name = true ↔
      l.definition?.map (·.2.name) = some name ∨ s.definitions.has name = true := by
  unfold declare Line.definition?
  cases l.record with
  | definition d =>
    simp only [Table.has_eq_isSome_get?, Table.get?_set, Option.map_some, Option.some.injEq,
      eq_comm (a := name)]
    split_ifs with hname <;> simp [hname]
  | label d =>
    simp only [addLabel]
    split_ifs <;> simp
  | comment | directive | instruction => simp

theorem definitions_collectFrom (slot : Nat) (s : Symbols) (ls : List Line) (name : Text) :
    (collectFrom slot s ls).1.definitions.has name = true ↔
      name ∈ Line.definitionNames ls ∨ s.definitions.has name = true := by
  induction ls generalizing slot s with
  | nil => simp [collectFrom, Line.definitionNames, Line.definitions]
  | cons l ls ih =>
    change (collectFrom (l.nextSlot slot) (s.declare slot l) ls).1.definitions.has name = true ↔ _
    rw [ih, definitions_declare, Line.definitionNames, Line.definitionNames,
      Line.definitions_cons, ← or_assoc]
    cases l.definition? with
    | none => simp
    | some q =>
      simp only [Option.map_some, Option.some.injEq, Option.toList_some, List.singleton_append,
        List.map_cons, List.mem_cons]
      rw [or_comm (a := name = q.2.name), eq_comm]

/-- A name is known after a program exactly if the program declares it. -/
theorem has_collect_iff (ls : List Line) (name : Text) :
    (collect ls).1.has name = true ↔
      name ∈ Line.labelNames ls ∨ name ∈ Line.definitionNames ls := by
  have hlabel : ({} : Symbols).hasLabel name = false := rfl
  have hdefinition : ({} : Symbols).definitions.has name = false := rfl
  rw [has, Bool.or_eq_true, collect, hasLabel_collectFrom, definitions_collectFrom]
  simp [hlabel, hdefinition]

/-! ## Repeated labels -/

/-- What is said of a label whose name another label has had. -/
def repetition (q : Option Location × Text) : Text :=
  Location.label q.1 ("label '" ++ q.2 ++ "' defined more than once")

/-- One message for each label whose name is that of an earlier one, in order. -/
def repetitions (qs : List (Option Location × Text)) : List Text :=
  qs.zipIdx.filterMap fun p =>
    if p.1.2 ∈ (qs.take p.2).map (·.2) then some (repetition p.1) else none

/-- Whoever knows the labels in front of a program reports the labels that repeat them or one
another. -/
theorem warnings_collectFrom (before : List (Option Location × Text))
    (hs : ∀ name, s.hasLabel name = true ↔ name ∈ before.map (·.2)) (slot : Nat)
    (ls : List Line) :
    (collectFrom slot s ls).2 = ((Line.labels ls).zipIdx before.length).filterMap fun p =>
      if p.1.2 ∈ ((before ++ Line.labels ls).take p.2).map (·.2) then some (repetition p.1)
      else none := by
  induction ls generalizing slot s before with
  | nil => rfl
  | cons l ls ih =>
    change (s.duplicate? l).toList ++ (collectFrom (l.nextSlot slot) (s.declare slot l) ls).2 = _
    cases hl : l.record with
    | label d =>
      have hlabels : Line.labels (l :: ls) = (l.location, d.name) :: Line.labels ls := by
        simp [Line.labels, Line.label?, hl]
      have hdeclared : ∀ name, (s.declare slot l).hasLabel name = true ↔
          name ∈ (before ++ [(l.location, d.name)]).map (·.2) := by
        intro name
        rw [hasLabel_declare, hs, Line.labelName?, hl]
        simp [or_comm, eq_comm]
      have hwarning : (s.duplicate? l) = if d.name ∈ before.map (·.2) then
          some (repetition (l.location, d.name)) else none := by
        simp only [duplicate?, hl, hs, repetition]
      rw [ih _ hdeclared, hwarning, hlabels, List.zipIdx_cons, List.filterMap_cons,
        List.take_left', List.length_append, List.length_singleton, List.append_assoc,
        List.singleton_append]
      · split_ifs <;> rfl
      · rfl
    | comment | definition | directive | instruction =>
      have hlabels : Line.labels (l :: ls) = Line.labels ls := by
        simp [Line.labels, Line.label?, hl]
      have hdeclared : ∀ name, (s.declare slot l).hasLabel name = true ↔
          name ∈ before.map (·.2) := by
        intro name
        rw [hasLabel_declare, hs, Line.labelName?, hl]
        simp
      rw [ih before hdeclared, hlabels, duplicate?, hl]
      rfl

/-- The labels that are reported after a program. -/
theorem warnings_collect (ls : List Line) : (collect ls).2 = repetitions (Line.labels ls) :=
  warnings_collectFrom [] (fun name => by simp [hasLabel, Table.has]) 0 ls

end Symbols

end AsmDispatch
