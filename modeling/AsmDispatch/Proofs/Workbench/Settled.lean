import AsmDispatch.Proofs.Resolution
import AsmDispatch.Proofs.Workbench.Walk

/-!
# Workbenches at rest

Once a program has been analyzed and resolved, neither has anything left to do.  Both write slots:
an analysis places data labels, which a numbering leaves alone, and a numbering does not change what
an analysis sees.  So from then on steps that do not edit the program change nothing but the list of
warnings, in whatever order they come and also if they are cut off or fail.

## Main statements

* `Region.analyze_stampFrom_analyze`: an analysis leaves what an analysis and a numbering have made.
* `Workbench.settled_resolve`: an analysis and a resolution settle a workbench.
* `Workbench.Settled.run`: a step leaves a settled workbench as it is, up to warnings.
* `Workbench.analyze_resolve_rests`: hence so do all runs of steps, and all answers stay the same.
-/

namespace AsmDispatch

/-! ## What an analysis does not see -/

/-- The record without the flag of data labels. -/
def Record.unflagged : Record → Record
  | .label d => .label { d with isData := false }
  | r => r

namespace Line

/-- The line without what analysis and numbering write. -/
def unmarked (l : Line) : Line := { l with record := l.record.unflagged, slot := unassigned }

theorem isLabel_unmarked (l : Line) : l.unmarked.isLabel = l.isLabel := by
  unfold isLabel unmarked
  cases l.record <;> rfl

theorem isByteData_unmarked (l : Line) : l.unmarked.isByteData = l.isByteData := by
  unfold isByteData unmarked
  cases l.record <;> rfl

theorem itemsOf_unmarked (l : Line) : Region.itemsOf l.unmarked = Region.itemsOf l := by
  unfold Region.itemsOf unmarked
  cases l.record <;> rfl

theorem unmarked_stamp (slot : Nat) (l : Line) : (l.stamp slot).unmarked = l.unmarked := by
  unfold stamp
  split <;> rfl

theorem map_unmarked_stampFrom (slot : Nat) (ls : List Line) :
    (stampFrom slot ls).map unmarked = ls.map unmarked := by
  induction ls generalizing slot with
  | nil => rfl
  | cons l ls ih => rw [stampFrom, List.map_cons, unmarked_stamp, ih, List.map_cons]

end Line

namespace Region

theorem unmarked_placed {l : Line} {d : Label} (hl : l.record = .label d) (a : Int) :
    (placed l d a).unmarked = l.unmarked := by
  rw [Line.unmarked, Line.unmarked, hl]
  rfl

theorem map_unmarked_analyze (a : Int) (ls : List Line) :
    (analyze a ls).1.map Line.unmarked = ls.map Line.unmarked := by
  induction ls generalizing a with
  | nil => rfl
  | cons l ls ih =>
    rcases none_or_data l ls with hl | ⟨d, items, hl, hitems⟩
    · rw [analyze_cons_of_none hl, List.map_cons, ih, List.map_cons]
    · rw [analyze_cons_of_data hl hitems, List.map_cons, ih, unmarked_placed hl, List.map_cons]

/-- Lines that differ in marks only hold the same items. -/
theorem itemsBehind?_congr {ls ls' : List Line} (h : ls.map Line.unmarked = ls'.map Line.unmarked) :
    itemsBehind? ls = itemsBehind? ls' := by
  have hmap := itemsBehind?_map Line.isLabel_unmarked Line.isByteData_unmarked Line.itemsOf_unmarked
  rw [← hmap ls, h, hmap ls']

/-- An analysis leaves what an analysis and a numbering have made, and finds the same regions. -/
theorem analyze_stampFrom_analyze (a : Int) (slot : Nat) (ls : List Line) :
    analyze a (Line.stampFrom slot (analyze a ls).1) =
      (Line.stampFrom slot (analyze a ls).1, (analyze a ls).2) := by
  induction ls generalizing a slot with
  | nil => rfl
  | cons l ls ih =>
    have hbehind (b : Int) (k : Nat) :
        itemsBehind? (Line.stampFrom k (analyze b ls).1) = itemsBehind? ls := by
      refine itemsBehind?_congr ?_
      rw [Line.map_unmarked_stampFrom, map_unmarked_analyze]
    rcases none_or_data l ls with hl | ⟨d, items, hl, hitems⟩
    · have hstamp : (l.stamp slot).isLabel = l.isLabel := by
        rw [Line.isLabel, Line.record_stamp, Line.isLabel]
      rw [analyze_cons_of_none hl, Line.stampFrom, analyze_cons_of_none, ih]
      rwa [hstamp, hbehind]
    · -- a label that has been placed keeps its address and is placed there again
      have hplaced : (placed l d a).stamp slot = placed l d a := Line.stamp_of_isDataLabel rfl slot
      rw [analyze_cons_of_data hl hitems, Line.stampFrom, hplaced,
        analyze_cons_of_data rfl ((hbehind _ _).trans hitems), ih]
      rfl

end Region

namespace Workbench

variable {w : Workbench} {base : Int}

/-! ## Settled workbenches -/

def withWarnings (w : Workbench) (warnings : List Text) : Workbench := { w with warnings }

/-- Analysis and numbering have nothing to do, and the symbols and the number of slots are those of
the program. -/
structure Settled (base : Int) (w : Workbench) : Prop where
  resolved : w.resolved = true
  analyzed : Region.analyze base w.lines = (w.lines, w.regions)
  stamped : Line.stampAll w.lines = w.lines
  collected : (Symbols.collect w.lines).1 = w.symbols
  counted : Line.slotCount w.lines = w.slotCount

theorem settled_resolve (w : Workbench) (base : Int) : Settled base (w.analyze base).resolve where
  resolved := rfl
  analyzed := Region.analyze_stampFrom_analyze base 0 w.lines
  stamped := Line.stampFrom_stampFrom 0 _
  collected := Symbols.collectFrom_stampFrom 0 0 {} _
  counted := Line.slotCount_stampFrom 0 _

namespace Settled

theorem analyze_eq (hw : Settled base w) : w.analyze base = w := by
  rw [analyze, hw.analyzed]

theorem resolve_eq (hw : Settled base w) :
    w.resolve = w.withWarnings (w.warnings ++ (Symbols.collect w.lines).2) := by
  unfold resolve
  simp only [hw.stamped, hw.collected, hw.counted, ← hw.resolved]
  rfl

theorem stampFirst_eq (hw : Settled base w) (n : Nat) : w.stampFirst n = w := by
  rw [stampFirst, hw.stamped, List.take_append_drop]

/-- Every pass agrees with the first. -/
theorem endPass_eq (hw : Settled base w) (pass : Int) : w.endPass pass = .ok w := by
  unfold endPass
  simp only [hw.counted, if_true, ite_self]

theorem walk_fst_eq (hw : Settled base w) (pass : Int) (limit : Option Nat) :
    (w.walk pass limit).1 = w := by
  unfold walk
  simp only [hw.stampFirst_eq, hw.endPass_eq]
  split <;> rfl

/-- The procedure leaves the lines as they are, however far it can be made. -/
theorem dispatch_fst_eq (hw : Settled base w) (h : Host) (c : Config) :
    (w.dispatch h c).1 =
      w.withWarnings (w.warnings ++ (Body.ofLines h w.symbols w.lines).warnings) := by
  rw [dispatch_fst, lines_body w h c, hw.stampFirst_eq]
  rfl

theorem exists_emit_fst_eq (hw : Settled base w) (h : Host) (c : Config) :
    ∃ warnings, (w.emit h c).1 = w.withWarnings warnings := by
  rw [emit_of_resolved hw.resolved]
  cases w.tables h c with
  | error f => exact ⟨w.warnings, rfl⟩
  | ok tables => exact ⟨_, hw.dispatch_fst_eq h c⟩

end Settled

/-- The step does not edit the program, and an analysis is made at the given base. -/
def Step.isSteady (base : Int) : Step → Bool
  | .append _ | .remove _ => false
  | .analyze b => b == base
  | _ => true

/-- Without a host nothing is changed. -/
theorem exists_withHost_fst_eq {α : Type} {target : Text} {f : Host → Workbench × Except Error α}
    (hf : ∀ h, ∃ warnings, (f h).1 = w.withWarnings warnings) :
    ∃ warnings, (w.withHost target f).1 = w.withWarnings warnings := by
  unfold withHost
  cases Host.ofName? target with
  | none => exact ⟨w.warnings, rfl⟩
  | some h => exact hf h

/-- A step leaves a settled workbench as it is, up to warnings. -/
theorem Settled.run (hw : Settled base w) {s : Step} (hs : s.isSteady base = true) :
    ∃ warnings, (w.run s).1 = w.withWarnings warnings := by
  cases s with
  | analyze b =>
    obtain rfl : b = base := eq_of_beq hs
    exact ⟨w.warnings, hw.analyze_eq⟩
  | resolve => exact ⟨_, hw.resolve_eq⟩
  | walk pass limit => exact ⟨w.warnings, hw.walk_fst_eq pass limit⟩
  | append lines | remove index => cases hs
  | lookup name | lines => exact ⟨w.warnings, rfl⟩
  | emit target c => exact exists_withHost_fst_eq fun h => hw.exists_emit_fst_eq h c
  | render target c block =>
    refine exists_withHost_fst_eq fun h => ?_
    cases block with
    | labels | definitions | addresses | data => exact ⟨w.warnings, rfl⟩
    | dispatch => exact ⟨_, hw.dispatch_fst_eq h c⟩
  | instruction target location i => exact exists_withHost_fst_eq fun h => ⟨_, rfl⟩

theorem Settled.withWarnings (hw : Settled base w) (warnings : List Text) :
    Settled base (w.withWarnings warnings) :=
  ⟨hw.resolved, hw.analyzed, hw.stamped, hw.collected, hw.counted⟩

/-- So does a run of steps. -/
theorem Settled.runAll (hw : Settled base w) {steps : List Step}
    (hsteps : ∀ s ∈ steps, s.isSteady base = true) :
    ∃ warnings, w.runAll steps = w.withWarnings warnings := by
  induction steps generalizing w with
  | nil => exact ⟨w.warnings, rfl⟩
  | cons s steps ih =>
    obtain ⟨hs, hsteps⟩ := List.forall_mem_cons.mp hsteps
    obtain ⟨warnings, hrun⟩ := hw.run hs
    obtain ⟨warnings', hrest⟩ := ih (hw.withWarnings warnings) hsteps
    refine ⟨warnings', ?_⟩
    rw [runAll_cons, hrun, hrest]
    rfl

/-! ## Answers -/

/-- A walk gives the lines that it visits, unless it comes to its end and disagrees with the first
pass. -/
theorem walk_snd (w : Workbench) (pass : Int) (limit : Option Nat) :
    (w.walk pass limit).2 =
      let visits := (w.lines.map (·.record)).zip (Line.slotsFrom 0 w.lines)
      match limit.filter (· ≤ w.lines.length) with
      | some n => .ok (visits.take n)
      | none =>
        if pass = 0 ∨ Line.slotCount w.lines = w.slotCount then .ok visits
        else .error (.passMismatch pass (Line.slotCount w.lines) w.slotCount) := by
  unfold walk
  cases limit.filter (· ≤ w.lines.length) with
  | some n => rfl
  | none =>
    simp only [endPass_stampFirst]
    by_cases hpass : pass = 0
    · rw [if_pos hpass, if_pos (Or.inl hpass)]
    · by_cases hcount : Line.slotCount w.lines = w.slotCount
      · rw [if_neg hpass, if_pos hcount, if_pos (Or.inr hcount)]
      · rw [if_neg hpass, if_neg hcount, if_neg (not_or.mpr ⟨hpass, hcount⟩)]

theorem dispatch_snd_withWarnings (w : Workbench) (warnings : List Text) (h : Host) (c : Config) :
    ((w.withWarnings warnings).dispatch h c).2 = (w.dispatch h c).2 := by
  rw [dispatch_snd, dispatch_snd]
  rfl

theorem emit_snd_withWarnings_of_resolved (hw : w.resolved = true) (warnings : List Text)
    (h : Host) (c : Config) : ((w.withWarnings warnings).emit h c).2 = (w.emit h c).2 := by
  have htables : (w.withWarnings warnings).tables h c = w.tables h c := rfl
  rw [emit_of_resolved hw, emit_of_resolved (w := w.withWarnings warnings) hw, htables]
  cases w.tables h c with
  | error f => rfl
  | ok tables => exact congrArg (Except.map _) (dispatch_snd_withWarnings w warnings h c)

theorem emit_snd_withWarnings (w : Workbench) (warnings : List Text) (h : Host) (c : Config) :
    ((w.withWarnings warnings).emit h c).2 = (w.emit h c).2 := by
  cases hw : w.resolved with
  | true => exact emit_snd_withWarnings_of_resolved hw warnings h c
  | false =>
    -- both are resolved first, which adds the same warnings to each
    rw [emit_of_not_resolved hw, emit_of_not_resolved (w := w.withWarnings warnings) hw]
    exact emit_snd_withWarnings_of_resolved (w := w.resolve) rfl _ h c

/-- What is made with a host does not depend on the warnings if it does not with any host. -/
theorem withHost_snd_congr {α : Type} {w w' : Workbench} {target : Text}
    {f f' : Host → Workbench × Except Error α} (hf : ∀ h, (f h).2 = (f' h).2) :
    (w.withHost target f).2 = (w'.withHost target f').2 := by
  unfold withHost
  cases Host.ofName? target with
  | none => rfl
  | some h => exact hf h

/-- What a step gives back does not depend on the warnings. -/
theorem run_snd_withWarnings (w : Workbench) (warnings : List Text) (s : Step) :
    ((w.withWarnings warnings).run s).2 = (w.run s).2 := by
  cases s with
  | analyze base | resolve | append lines | lookup name | lines => rfl
  | remove index =>
    have hplace : (w.withWarnings warnings).place? index = w.place? index := rfl
    simp only [run, remove, hplace]
    cases w.place? index <;> rfl
  | walk pass limit =>
    change ((w.withWarnings warnings).walk pass limit).2.map _ = (w.walk pass limit).2.map _
    rw [walk_snd, walk_snd]
    rfl
  | emit target c =>
    refine withHost_snd_congr fun h => ?_
    exact congrArg (Except.map Answer.output) (emit_snd_withWarnings w warnings h c)
  | render target c block =>
    refine withHost_snd_congr fun h => congrArg (Except.map Answer.block) ?_
    cases block with
    | labels | definitions | addresses | data => rfl
    | dispatch => exact dispatch_snd_withWarnings w warnings h c
  | instruction target location i => exact withHost_snd_congr fun h => rfl

/-- Of the first workbench nothing has changed but its warnings. -/
structure Rests (w w' : Workbench) : Prop where
  lines : w'.lines = w.lines
  slotCount : w'.slotCount = w.slotCount
  symbols : w'.symbols = w.symbols
  /-- Whatever is asked for is given back as before. -/
  answers : ∀ s : Step, (w'.run s).2 = (w.run s).2

/-- After an analysis and a resolution, steps that do not edit the program leave it at rest, and a
further analysis finds the regions of the first. -/
theorem analyze_resolve_rests (w : Workbench) (base : Int) (steps : List Step)
    (hsteps : ∀ s ∈ steps, s.isSteady base = true) :
    Rests (w.runAll [.analyze base, .resolve])
        (w.runAll (.analyze base :: .resolve :: steps)) ∧
      ((w.runAll (.analyze base :: .resolve :: steps)).run (.analyze base)).2 =
        (w.run (.analyze base)).2 := by
  have hstart : w.runAll [.analyze base, .resolve] = (w.analyze base).resolve := rfl
  have hsettled := settled_resolve w base
  obtain ⟨warnings, hrest⟩ := hsettled.runAll hsteps
  have hrun : w.runAll (.analyze base :: .resolve :: steps) =
      (w.analyze base).resolve.withWarnings warnings := hrest
  rw [hstart, hrun]
  refine ⟨⟨rfl, rfl, rfl, run_snd_withWarnings _ warnings⟩, ?_⟩
  have hagain : ((w.analyze base).resolve.run (.analyze base)).2 =
      .ok (.regions ((w.analyze base).resolve.analyze base).regions) := rfl
  rw [run_snd_withWarnings, hagain, hsettled.analyze_eq]
  rfl

/-- A name for a table and for code, and a label that an earlier analysis has taken for data. -/
def mixedLines : List Line :=
  [{ record := .label { name := "main" } },
    { record := .directive { name := ".db", operand := "1, 2" } },
    { record := .label { name := "old", isData := true }, slot := 7 },
    { record := .label { name := "main" } },
    { record := .instruction { mnemonic := "JMP", operand := "main" } },
    { record := .instruction { mnemonic := "LDA", operand := "old" } }]

/-- Walks that are cut off, and emissions of which one fails. -/
def mixedSteps : List Step :=
  [.walk 0 (some 3), .emit "python" {}, .analyze 0x8000, .walk 1 none, .emit "basic" {},
    .walk 2 (some 0), .resolve, .emit "javascript" {}]

theorem analyze_resolve_rests_of_mixed :
    (∀ s ∈ mixedSteps, s.isSteady 0x8000 = true) ∧
      Rests (runAll { lines := mixedLines } [.analyze 0x8000, .resolve])
        (runAll { lines := mixedLines } (.analyze 0x8000 :: .resolve :: mixedSteps)) ∧
      ((runAll { lines := mixedLines } (.analyze 0x8000 :: .resolve :: mixedSteps)).run
        (.analyze 0x8000)).2 = (run { lines := mixedLines } (.analyze 0x8000)).2 := by
  have hsteady : ∀ s ∈ mixedSteps, s.isSteady 0x8000 = true := by decide
  exact ⟨hsteady, analyze_resolve_rests { lines := mixedLines } 0x8000 mixedSteps hsteady⟩

end Workbench

end AsmDispatch
