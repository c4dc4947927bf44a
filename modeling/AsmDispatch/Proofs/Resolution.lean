import AsmDispatch.Proofs.Symbols
import AsmDispatch.Workbench
import Mathlib.Data.List.Nodup

/-!
# What a resolution finds

A resolution numbers the lines of a program and enters its names, both in one pass.  Names of labels
may go back and forth between the two tables, and each time go to the end of theirs; so the tables
list the last labels of the names in the order in which these stand in the program.  A definition
that is repeated keeps its first place and takes the last literal.

## Main statements

* `Line.getElem?_stampFrom`, `Line.slot_eq_next`: the slots of the lines.
* `Symbols.labelTable_collectFrom`: the names in the two tables of labels.
* `Symbols.names_definitions_collectFrom`, `Symbols.get?_definitions_collectFrom`: the table of
  definitions.
* `Workbench.resolution_exact`: all of it, for every program whatever its flags and slots.
-/

namespace AsmDispatch

/-! ## Slots -/

namespace Line

variable {ls before behind : List Line} {l m : Line} {name other : Text} {slot i : Nat}

theorem isDataLabel_eq_false_of_isInstruction (h : l.isInstruction = true) :
    l.isDataLabel = false := by
  unfold isInstruction at h
  unfold isDataLabel
  split at h
  · next i hi => rw [hi]
  · cases h

/-- Instructions get consecutive slots. -/
theorem slots_instructions_stampFrom (slot : Nat) (ls : List Line) :
    ((stampFrom slot ls).filter isInstruction).map Line.slot =
      (List.range' slot (slotCount ls)).map Int.ofNat := by
  induction ls generalizing slot with
  | nil => rfl
  | cons l ls ih =>
    rw [stampFrom, List.filter_cons, isInstruction_stamp]
    cases hl : l.isInstruction with
    | false =>
      have hcount : slotCount (l :: ls) = slotCount ls := by simp [slotCount, hl]
      have hnext : l.nextSlot slot = slot := by simp [nextSlot, hl]
      rw [if_neg Bool.false_ne_true, hcount, hnext, ih]
    | true =>
      have hcount : slotCount (l :: ls) = slotCount ls + 1 := by simp [slotCount, hl]
      have hnext : l.nextSlot slot = slot + 1 := by simp [nextSlot, hl]
      rw [if_pos rfl, List.map_cons, hcount, hnext, ih, List.range'_succ, List.map_cons,
        stamp_of_not_isDataLabel (isDataLabel_eq_false_of_isInstruction hl)]
      rfl

/-- The first instruction of some lines has the slot at which they start, which is also the slot
behind them if they hold no instruction. -/
theorem slot_find?_stampFrom (slot : Nat) (ls : List Line) :
    (((stampFrom slot ls).find? isInstruction).map Line.slot).getD
      ((slot + slotCount ls : Nat) : Int) = slot := by
  induction ls generalizing slot with
  | nil => rfl
  | cons l ls ih =>
    rw [stampFrom, List.find?_cons, isInstruction_stamp]
    cases hl : l.isInstruction with
    | false =>
      have hnext : l.nextSlot slot = slot := by simp [nextSlot, hl]
      rw [slotCount_cons, hnext]
      exact ih slot
    | true =>
      rw [stamp_of_not_isDataLabel (isDataLabel_eq_false_of_isInstruction hl)]
      rfl

/-- A line that is no data label has as its slot the number of instructions in front of it. -/
theorem slot_of_getElem?_stampAll (hget : (stampAll ls)[i]? = some l)
    (hl : l.isDataLabel = false) : l.slot = slotCount (ls.take i) := by
  rw [stampAll, getElem?_stampFrom, Nat.zero_add, Option.map_eq_some_iff] at hget
  obtain ⟨m, -, rfl⟩ := hget
  rw [isDataLabel_stamp] at hl
  rw [stamp_of_not_isDataLabel hl]

/-- It has the slot of the next instruction from there on, or the slot behind the program. -/
theorem slot_eq_next (hget : (stampAll ls)[i]? = some l) (hl : l.isDataLabel = false) :
    l.slot =
      ((((stampAll ls).drop i).find? isInstruction).map Line.slot).getD (slotCount ls) := by
  have hcount : slotCount ls = slotCount (ls.take i) + slotCount (ls.drop i) := by
    rw [slotCount, slotCount, slotCount, ← List.countP_append, List.take_append_drop]
  rw [slot_of_getElem?_stampAll hget hl, stampAll, drop_stampFrom, Nat.zero_add, hcount,
    slot_find?_stampFrom]

/-- A line of a numbered program that is no data label has the slot that the numbers in front of it
lead to. -/
theorem slot_of_stampFrom_eq_append (h : stampFrom slot ls = before ++ l :: behind)
    (hl : l.isDataLabel = false) : l.slot = (slot + slotCount before : Nat) := by
  induction before generalizing slot ls with
  | nil =>
    cases ls with
    | nil => cases h
    | cons m ls =>
      obtain ⟨rfl, -⟩ := List.cons.inj h
      rw [isDataLabel_stamp] at hl
      rw [stamp_of_not_isDataLabel hl]
      rfl
  | cons x before ih =>
    cases ls with
    | nil => cases h
    | cons m ls =>
      obtain ⟨rfl, htail⟩ := List.cons.inj h
      rw [ih htail, slotCount_cons, nextSlot_stamp]

/-! ## Last labels -/

/-- The labels behind which there is no label of the same name, each with its name, in order. -/
def lastLabels : List Line → List (Text × Line)
  | [] => []
  | l :: ls =>
    match l.labelName? with
    | none => lastLabels ls
    | some name =>
      if (labelNames ls).contains name then lastLabels ls else (name, l) :: lastLabels ls

theorem labelNames_cons_of_some (h : l.labelName? = some name) (ls : List Line) :
    labelNames (l :: ls) = name :: labelNames ls := List.filterMap_cons_some h

theorem labelNames_cons_of_none (h : l.labelName? = none) (ls : List Line) :
    labelNames (l :: ls) = labelNames ls := List.filterMap_cons_none h

/-- A line in front of a program is the last label of its name, or leaves the last labels alone. -/
theorem lastLabels_cons (l : Line) (ls : List Line) :
    (∃ name, l.labelName? = some name ∧ name ∉ labelNames ls ∧
        lastLabels (l :: ls) = (name, l) :: lastLabels ls) ∨
      ((∀ name, l.labelName? = some name → name ∈ labelNames ls) ∧
        lastLabels (l :: ls) = lastLabels ls) := by
  rw [lastLabels]
  cases hname : l.labelName? with
  | none =>
    refine Or.inr ⟨?_, rfl⟩
    intro name h
    cases h
  | some name =>
    by_cases hmem : name ∈ labelNames ls
    · refine Or.inr ⟨?_, ?_⟩
      · intro other h
        cases h
        exact hmem
      · simp only [List.contains_iff_mem.mpr hmem, if_true]
    · refine Or.inl ⟨name, rfl, hmem, ?_⟩
      have hcontains : (labelNames ls).contains name = false := by
        rw [Bool.eq_false_iff]
        exact fun h => hmem (List.contains_iff_mem.mp h)
      simp only [hcontains, Bool.false_eq_true, if_false]

theorem mem_map_fst_lastLabels (ls : List Line) (name : Text) :
    name ∈ (lastLabels ls).map Prod.fst ↔ name ∈ labelNames ls := by
  induction ls with
  | nil => simp [lastLabels, labelNames]
  | cons l ls ih =>
    rcases lastLabels_cons l ls with ⟨other, hother, -, heq⟩ | ⟨hold, heq⟩
    · rw [heq, List.map_cons, List.mem_cons, ih, labelNames_cons_of_some hother, List.mem_cons]
    · rw [heq, ih]
      cases hl : l.labelName? with
      | none => rw [labelNames_cons_of_none hl]
      | some other =>
        rw [labelNames_cons_of_some hl, List.mem_cons]
        constructor
        · exact Or.inr
        · rintro (rfl | h)
          · exact hold _ hl
          · exact h

theorem nodup_map_fst_lastLabels (ls : List Line) : ((lastLabels ls).map Prod.fst).Nodup := by
  induction ls with
  | nil => exact .nil
  | cons l ls ih =>
    rcases lastLabels_cons l ls with ⟨name, -, hnew, heq⟩ | ⟨-, heq⟩
    · rw [heq, List.map_cons, List.nodup_cons]
      refine ⟨?_, ih⟩
      rw [mem_map_fst_lastLabels]
      exact hnew
    · rw [heq]
      exact ih

/-- The last label of the first name stands in front of the last label of the second. -/
def LastBefore (ls : List Line) (name other : Text) : Prop :=
  ∀ before l behind before' l' behind', IsLastLabel ls name before l behind →
    IsLastLabel ls other before' l' behind' → before.length < before'.length

/-- The last label of a name that comes again behind a line is not that line. -/
theorem IsLastLabel.of_cons (h : IsLastLabel (m :: ls) name before l behind)
    (hname : name ∈ labelNames ls) :
    ∃ rest, before = m :: rest ∧ IsLastLabel ls name rest l behind := by
  cases before with
  | nil =>
    obtain ⟨-, rfl⟩ := List.cons.inj h.eq_append
    exact absurd hname h.not_mem_behind
  | cons x rest =>
    obtain ⟨rfl, heq⟩ := List.cons.inj h.eq_append
    exact ⟨rest, rfl, heq, h.labelName, h.not_mem_behind⟩

/-- The last label of a name that does not come again behind a line has nothing in front of it, if
it is that line. -/
theorem IsLastLabel.eq_nil_of_cons (h : IsLastLabel (m :: ls) name before l behind)
    (hname : name ∉ labelNames ls) : before = [] := by
  cases before with
  | nil => rfl
  | cons x rest =>
    obtain ⟨rfl, heq⟩ := List.cons.inj h.eq_append
    refine absurd (mem_labelNames_iff.mpr ⟨l, ?_, h.labelName⟩) hname
    rw [heq]
    exact List.mem_append_right _ List.mem_cons_self

theorem LastBefore.cons (h : LastBefore ls name other) (hname : name ∈ labelNames ls)
    (hother : other ∈ labelNames ls) (m : Line) : LastBefore (m :: ls) name other := by
  intro before l behind before' l' behind' hl hl'
  obtain ⟨rest, rfl, htail⟩ := hl.of_cons hname
  obtain ⟨rest', rfl, htail'⟩ := hl'.of_cons hother
  exact Nat.succ_lt_succ (h _ _ _ _ _ _ htail htail')

/-- Last labels are listed in the order in which they stand in the program. -/
theorem pairwise_lastBefore (ls : List Line) :
    ((lastLabels ls).map Prod.fst).Pairwise (LastBefore ls) := by
  induction ls with
  | nil => exact .nil
  | cons m ls ih =>
    have hrest : ((lastLabels ls).map Prod.fst).Pairwise (LastBefore (m :: ls)) := by
      refine ih.imp_of_mem ?_
      intro name other hname hother h
      rw [mem_map_fst_lastLabels] at hname hother
      exact h.cons hname hother m
    rcases lastLabels_cons m ls with ⟨name, -, hnew, heq⟩ | ⟨-, heq⟩
    · rw [heq, List.map_cons, List.pairwise_cons]
      refine ⟨?_, hrest⟩
      intro other hother before l behind before' l' behind' hl hl'
      rw [mem_map_fst_lastLabels] at hother
      obtain ⟨rest, rfl, -⟩ := hl'.of_cons hother
      rw [hl.eq_nil_of_cons hnew]
      exact Nat.succ_pos _
    · rw [heq]
      exact hrest

end Line

/-! ## Tables -/

namespace Table

variable {α : Type}

/-- The names of a table in order. -/
def names (t : Table α) : List Text := t.map Prod.fst

theorem names_erase (t : Table α) (name : Text) :
    (t.erase name).names = t.names.filter (· != name) := by
  rw [names, names, List.filter_map]
  rfl

theorem has_eq_contains_names (t : Table α) (name : Text) :
    t.has name = t.names.contains name := by
  rw [Bool.eq_iff_iff, has, List.any_eq_true, List.contains_iff_mem, names, List.mem_map]
  simp

/-- A name that is new to a table comes last, and any other keeps its place. -/
theorem names_set (t : Table α) (name : Text) (a : α) :
    (t.set name a).names = if t.names.contains name then t.names else t.names ++ [name] := by
  rw [set, has_eq_contains_names]
  split_ifs
  · rw [names, List.map_map, names]
    apply List.map_congr_left
    intro e _
    by_cases he : e.1 = name
    · simp [he]
    · simp [he]
  · simp [names]

end Table

namespace Symbols

variable {s : Symbols} {slot : Nat} {l : Line} {ls : List Line} {name : Text}

/-- The names in the table of data labels, or in that of code labels. -/
def labelTable (s : Symbols) (data : Bool) : List Text :=
  if data then s.dataLabels.names else s.codeLabels.names

/-- A label leaves the place that its name had and comes last in its table. -/
theorem labelTable_declare_of_some (hname : l.labelName? = some name) (s : Symbols) (slot : Nat)
    (data : Bool) :
    (s.declare slot l).labelTable data =
      (s.labelTable data).filter (· != name) ++ if l.isDataLabel = data then [name] else [] := by
  obtain ⟨d, hd, rfl⟩ := Line.exists_label_of_labelName? hname
  have hflag : l.isDataLabel = d.isData := by rw [Line.isDataLabel, hd]
  unfold declare addLabel labelTable
  rw [hflag]
  simp only [hd]
  cases data <;> cases d.isData <;> simp [Table.names_set, Table.names_erase]

theorem labelTable_declare_of_none (hname : l.labelName? = none) (s : Symbols) (slot : Nat)
    (data : Bool) : (s.declare slot l).labelTable data = s.labelTable data := by
  unfold Line.labelName? at hname
  unfold declare
  cases hl : l.record with
  | label d =>
    rw [hl] at hname
    cases hname
  | comment | definition | directive | instruction => rfl

/-- What a program leaves in a table of labels: the names that it does not take over, and behind
them its own last labels of that kind. -/
theorem labelTable_collectFrom (data : Bool) (slot : Nat) (s : Symbols) (ls : List Line) :
    (collectFrom slot s ls).1.labelTable data =
      (s.labelTable data).filter (fun name => !(Line.labelNames ls).contains name) ++
        ((Line.lastLabels ls).filter fun e => e.2.isDataLabel = data).map Prod.fst := by
  induction ls generalizing slot s with
  | nil => simp [collectFrom, Line.labelNames, Line.lastLabels]
  | cons l ls ih =>
    change (collectFrom (l.nextSlot slot) (s.declare slot l) ls).1.labelTable data = _
    rw [ih]
    cases hname : l.labelName? with
    | none =>
      have hlast : Line.lastLabels (l :: ls) = Line.lastLabels ls := by
        rw [Line.lastLabels, hname]
      rw [labelTable_declare_of_none hname, Line.labelNames_cons_of_none hname, hlast]
    | some name =>
      have hkept : ((s.labelTable data).filter (· != name)).filter
          (fun n => !(Line.labelNames ls).contains n) =
            (s.labelTable data).filter fun n => !(Line.labelNames (l :: ls)).contains n := by
        rw [List.filter_filter, Line.labelNames_cons_of_some hname]
        apply List.filter_congr
        intro n _
        rw [List.contains_cons, Bool.not_or, Bool.and_comm, bne]
      rw [labelTable_declare_of_some hname, List.filter_append, hkept, List.append_assoc]
      congr 1
      rcases Line.lastLabels_cons l ls with ⟨other, hother, hnew, hlast⟩ | ⟨hold, hlast⟩
      · rw [hname] at hother
        cases hother
        rw [hlast, List.filter_cons]
        by_cases hdata : l.isDataLabel = data
        · simp [hdata, hnew]
        · simp [hdata]
      · rw [hlast]
        split_ifs
        · simp [hold name hname]
        · rfl

theorem labelTable_collect (data : Bool) (ls : List Line) :
    (collect ls).1.labelTable data =
      ((Line.lastLabels ls).filter fun e => e.2.isDataLabel = data).map Prod.fst := by
  rw [collect, labelTable_collectFrom]
  cases data <;> rfl

/-- No name is twice in the tables of labels. -/
theorem nodup_labelTables (ls : List Line) :
    ((collect ls).1.labelTable false ++ (collect ls).1.labelTable true).Nodup := by
  have hperm : (((Line.lastLabels ls).filter fun e => e.2.isDataLabel = false) ++
      (Line.lastLabels ls).filter fun e => e.2.isDataLabel = true).Perm (Line.lastLabels ls) := by
    have hnot : (fun e : Text × Line => decide (e.2.isDataLabel = true)) =
        fun e => !decide (e.2.isDataLabel = false) := by
      funext e
      cases e.2.isDataLabel <;> rfl
    rw [hnot]
    exact List.filter_append_perm _ _
  rw [labelTable_collect, labelTable_collect, ← List.map_append, (hperm.map _).nodup_iff]
  exact Line.nodup_map_fst_lastLabels ls

theorem mem_labelTables_iff (ls : List Line) (name : Text) :
    name ∈ (collect ls).1.labelTable false ++ (collect ls).1.labelTable true ↔
      name ∈ Line.labelNames ls := by
  rw [labelTable_collect, labelTable_collect, ← List.map_append, ← Line.mem_map_fst_lastLabels,
    List.mem_map, List.mem_map]
  refine exists_congr fun e => and_congr_left' ?_
  rw [List.mem_append, List.mem_filter, List.mem_filter]
  cases e.2.isDataLabel <;> simp

/-- The names of either table are in the order of their last labels. -/
theorem pairwise_labelTable (data : Bool) (ls : List Line) :
    ((collect ls).1.labelTable data).Pairwise (Line.LastBefore ls) := by
  rw [labelTable_collect]
  exact (Line.pairwise_lastBefore ls).sublist (List.filter_sublist.map _)

/-- Slots play no part in the names, but for those of data labels. -/
theorem collectFrom_stampFrom (slot k : Nat) (s : Symbols) (ls : List Line) :
    (collectFrom slot s (Line.stampFrom k ls)).1 = (collectFrom slot s ls).1 := by
  induction ls generalizing slot k s with
  | nil => rfl
  | cons l ls ih =>
    have hdeclare : s.declare slot (l.stamp k) = s.declare slot l := by
      unfold declare
      rw [Line.record_stamp]
      cases hl : l.record with
      | label d =>
        cases hd : d.isData with
        | true =>
          have hflag : l.isDataLabel = true := by
            rw [Line.isDataLabel, hl]
            exact hd
          rw [Line.stamp, if_pos hflag]
        | false => simp only [addLabel, hd, Bool.false_eq_true, if_false]
      | comment | definition | directive | instruction => rfl
    change (collectFrom ((l.stamp k).nextSlot slot) (s.declare slot (l.stamp k))
      (Line.stampFrom (l.nextSlot k) ls)).1 = _
    rw [hdeclare, Line.nextSlot_stamp, ih]
    rfl

/-! ## Definitions -/

/-- The literal of the last definition of a name. -/
def lastLiteral? (ls : List Line) (name : Text) : Option Text :=
  ((Line.definitions ls).filter (·.2.name == name)).getLast?.map (·.2.literal)

theorem definitions_declare_of_some {q : Option Location × Definition}
    (hq : l.definition? = some q) (s : Symbols) (slot : Nat) :
    (s.declare slot l).definitions = s.definitions.set q.2.name q.2.literal := by
  unfold Line.definition? at hq
  unfold declare
  split at hq
  · next d hd =>
    cases hq
    simp only [hd]
  · cases hq

theorem definitions_declare_of_none (hq : l.definition? = none) (s : Symbols) (slot : Nat) :
    (s.declare slot l).definitions = s.definitions := by
  unfold Line.definition? at hq
  unfold declare addLabel
  cases hl : l.record with
  | definition d =>
    rw [hl] at hq
    cases hq
  | label d =>
    simp only
    split <;> rfl
  | comment | directive | instruction => rfl

theorem definitionNames_cons (l : Line) (ls : List Line) :
    Line.definitionNames (l :: ls) =
      (l.definition?.toList.map fun q => q.2.name) ++ Line.definitionNames ls := by
  rw [Line.definitionNames, Line.definitions_cons, List.map_append, Line.definitionNames]

/-- The definitions of a program come behind those that were there, in the order in which their
names first occur. -/
theorem names_definitions_collectFrom (slot : Nat) (s : Symbols) (ls : List Line) :
    (collectFrom slot s ls).1.definitions.names =
      s.definitions.names ++
        ((Line.definitionNames ls).removeAll s.definitions.names).eraseDups := by
  induction ls generalizing slot s with
  | nil => simp [collectFrom, Line.definitionNames, Line.definitions]
  | cons l ls ih =>
    change (collectFrom (l.nextSlot slot) (s.declare slot l) ls).1.definitions.names = _
    rw [ih, definitionNames_cons]
    cases hq : l.definition? with
    | none =>
      rw [definitions_declare_of_none hq]
      rfl
    | some q =>
      change _ = s.definitions.names ++
        ((q.2.name :: Line.definitionNames ls).removeAll s.definitions.names).eraseDups
      rw [definitions_declare_of_some hq, Table.names_set, List.cons_removeAll]
      cases hold : s.definitions.names.contains q.2.name with
      | true => rfl
      | false =>
        -- a name that is entered now is skipped from now on
        have hskip : (Line.definitionNames ls).removeAll (s.definitions.names ++ [q.2.name]) =
            ((Line.definitionNames ls).removeAll s.definitions.names).filter
              fun n => !n == q.2.name := by
          rw [List.removeAll, List.removeAll, List.filter_filter]
          apply List.filter_congr
          intro n _
          simp [Bool.and_comm, beq_eq_decide]
        rw [if_neg Bool.false_ne_true, if_pos rfl, hskip, List.eraseDups_cons, List.append_assoc,
          List.singleton_append]

/-- A name stands for the literal of its last definition. -/
theorem get?_definitions_collectFrom (slot : Nat) (s : Symbols) (ls : List Line) (name : Text) :
    (collectFrom slot s ls).1.definitions.get? name =
      (lastLiteral? ls name).or (s.definitions.get? name) := by
  induction ls generalizing slot s with
  | nil => rfl
  | cons l ls ih =>
    change (collectFrom (l.nextSlot slot) (s.declare slot l) ls).1.definitions.get? name = _
    rw [ih, lastLiteral?, lastLiteral?, Line.definitions_cons]
    cases hq : l.definition? with
    | none =>
      rw [definitions_declare_of_none hq]
      rfl
    | some q =>
      rw [definitions_declare_of_some hq, Table.get?_set, Option.toList_some,
        List.singleton_append, List.filter_cons]
      by_cases hname : name = q.2.name
      · rw [if_pos hname, if_pos (by simp [hname]), List.getLast?_cons]
        cases ((Line.definitions ls).filter fun q => q.2.name == name).getLast? <;> rfl
      · rw [if_neg hname, if_neg (by simpa using Ne.symm hname)]

end Symbols

/-! ## The resolution as a whole -/

namespace Workbench

/-- The workbench `w'` is what a resolution makes of the workbench `w`. -/
structure Resolution (w w' : Workbench) : Prop where
  length_eq : w'.lines.length = w.lines.length
  /-- A data label stays as it is, and any other line gets as its slot the number of instructions in
  front of it. -/
  line_eq : ∀ (i : Nat) (l l' : Line), w.lines[i]? = some l → w'.lines[i]? = some l' →
    l' = if l.isDataLabel then l else { l with slot := Line.slotCount (w.lines.take i) }
  /-- So instructions are numbered one after the other, -/
  instructions : (w'.lines.filter Line.isInstruction).map Line.slot =
    (List.range w'.slotCount).map Int.ofNat
  /-- and other lines have the slot of the next instruction, or the slot behind the last one. -/
  next : ∀ (i : Nat) (l : Line), w'.lines[i]? = some l → l.isDataLabel = false →
    l.slot = (((w'.lines.drop i).find? Line.isInstruction).map Line.slot).getD w'.slotCount
  /-- The two tables of labels have no name in common, and none of them has a name twice. -/
  nodup : (w'.symbols.labelTable false ++ w'.symbols.labelTable true).Nodup
  mem_iff : ∀ name, name ∈ w'.symbols.labelTable false ++ w'.symbols.labelTable true ↔
    name ∈ Line.labelNames w.lines
  /-- A name stands for the slot of its last label, in the table for labels of that kind only. -/
  values : ∀ name before l behind, Line.IsLastLabel w'.lines name before l behind →
    (l.isDataLabel = true → w'.symbols.labelValues name = (none, some l.slot)) ∧
      (l.isDataLabel = false →
        ∃ n : Nat, l.slot = n ∧ w'.symbols.labelValues name = (some n, none))
  order : ∀ data, (w'.symbols.labelTable data).Pairwise (Line.LastBefore w.lines)
  /-- Definitions are in the order in which their names first occur. -/
  definitions : w'.symbols.definitions.names = (Line.definitionNames w.lines).eraseDups
  literals : ∀ name, w'.symbols.definitions.get? name = Symbols.lastLiteral? w.lines name
  /-- There is a warning for every label whose name is that of an earlier one. -/
  warnings : w'.warnings = w.warnings ++ Symbols.repetitions (Line.labels w.lines)

theorem resolution_exact (w : Workbench) : w.Resolution w.resolve where
  length_eq := Line.length_stampFrom 0 w.lines
  line_eq := by
    intro i l l' hl hl'
    change (Line.stampFrom 0 w.lines)[i]? = some l' at hl'
    rw [Line.getElem?_stampFrom, hl, Option.map_some, Nat.zero_add] at hl'
    cases hl'
    rfl
  instructions := by
    change ((Line.stampFrom 0 w.lines).filter Line.isInstruction).map Line.slot = _
    rw [Line.slots_instructions_stampFrom, List.range_eq_range']
    rfl
  next := fun i l hget hl => Line.slot_eq_next hget hl
  nodup := Symbols.nodup_labelTables w.lines
  mem_iff := Symbols.mem_labelTables_iff w.lines
  values := by
    intro name before l behind hlast
    have hvalues : w.resolve.symbols.labelValues name =
        Symbols.valuesOf (Line.slotCount before) l := by
      rw [← Symbols.labelValues_collect_of_isLastLabel hlast]
      exact congrArg (Symbols.labelValues · name)
        (Symbols.collectFrom_stampFrom 0 0 {} w.lines).symm
    rw [hvalues, Symbols.valuesOf]
    refine ⟨fun hl => by rw [if_pos hl], fun hl => ⟨Line.slotCount before, ?_, ?_⟩⟩
    · rw [Line.slot_of_stampFrom_eq_append hlast.eq_append hl, Nat.zero_add]
    · rw [hl, if_neg Bool.false_ne_true]
  order := fun data => Symbols.pairwise_labelTable data w.lines
  definitions := by
    change (Symbols.collectFrom 0 {} w.lines).1.definitions.names = _
    rw [Symbols.names_definitions_collectFrom]
    change [] ++ ((Line.definitionNames w.lines).removeAll []).eraseDups = _
    rw [List.nil_append, List.removeAll_nil]
  literals := by
    intro name
    change (Symbols.collectFrom 0 {} w.lines).1.definitions.get? name = _
    rw [Symbols.get?_definitions_collectFrom]
    exact Option.or_none
  warnings := congrArg (w.warnings ++ ·) (Symbols.warnings_collect w.lines)

end Workbench

end AsmDispatch
