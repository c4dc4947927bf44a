import AsmDispatch.Proofs.Dispatch.Code
import AsmDispatch.Proofs.Region.Reach

/-!
# Comments between the lines

A comment has no slot of its own, no name and no data, but it may stand between a label and its
data.  If no label reaches over the place of a comment, the program is what it is without it: the
same slots and flags, regions, names and warnings, and an output that differs in remarks only.  If
some label does, the regions are not the same.

## Main statements

* `Compilation.comment_inert`: both directions, and a condition on the lines next to the comment.
-/

namespace AsmDispatch

open Outcome (Agree)

namespace Line

variable {m : Line} {text : Text}

theorem isLabel_of_comment (hm : m.record = .comment text) : m.isLabel = false := by
  rw [isLabel, hm]

theorem isByteData_of_comment (hm : m.record = .comment text) : m.isByteData = false := by
  rw [isByteData, hm]

theorem nextSlot_of_comment (hm : m.record = .comment text) (slot : Nat) :
    m.nextSlot slot = slot := by
  rw [nextSlot, isInstruction, hm]
  rfl

/-- A line that something does not see may be taken out. -/
theorem filterMap_append_cons {α : Type} {f : Line → Option α} (hm : f m = none)
    (xs ys : List Line) : (xs ++ m :: ys).filterMap f = (xs ++ ys).filterMap f := by
  rw [List.filterMap_append, List.filterMap_cons_none hm, List.filterMap_append]

end Line

/-- A comment declares nothing. -/
theorem Symbols.collectFrom_cons_of_comment {m : Line} {text : Text}
    (hm : m.record = .comment text) (slot : Nat) (s : Symbols) (ls : List Line) :
    (collectFrom slot s (m :: ls)).1 = (collectFrom slot s ls).1 := by
  have hdeclare : s.declare slot m = s := by rw [declare, hm]
  rw [collectFrom, Line.nextSlot_of_comment hm, hdeclare]

namespace Body

variable {h : Host} {symbols : Symbols}

/-- Emission leaves a program alone that has been numbered. -/
theorem lines_ofLinesFrom_stampFrom (slot : Nat) (ls : List Line) :
    (ofLinesFrom h symbols slot (Line.stampFrom slot ls)).lines = Line.stampFrom slot ls := by
  induction ls generalizing slot with
  | nil => rfl
  | cons l ls ih =>
    rw [Line.stampFrom, ofLinesFrom, Line.stamp_stamp]
    split
    · rfl
    · rw [Line.nextSlot_stamp]
      exact congrArg _ (ih _)

end Body

namespace Workbench

/-- Emission leaves the lines of a numbered program as they are, also if it fails. -/
theorem lines_emit {w : Workbench} {ls : List Line} (hw : w.resolved = true)
    (hlines : w.lines = Line.stampAll ls) (h : Host) (c : Config) :
    (w.emit h c).1.lines = w.lines := by
  unfold emit
  simp only [hw, if_true]
  cases w.tables h c with
  | error f => rfl
  | ok tables =>
    refine (congrArg Workbench.lines (dispatch_fst w h c)).trans ?_
    rw [hlines]
    exact Body.lines_ofLinesFrom_stampFrom 0 ls

end Workbench

/-- Two outputs that differ in remarks of the procedure only. -/
structure Output.SameCode (h : Host) (o o' : Output) : Prop where
  labels : o'.labels = o.labels
  definitions : o'.definitions = o.definitions
  addresses : o'.addresses = o.addresses
  data : o'.data = o.data
  dispatch : Output.codeLines h o'.dispatch = Output.codeLines h o.dispatch

namespace Compilation

variable {m : Line} {text : Text} {xs ys : List Line} {c : Config} {h : Host}

/-- A program from its lines to its output: what has become of it, and the output or an error. -/
def build (c : Config) (h : Host) (ls : List Line) : Workbench × Except Error Output :=
  (prepare c { lines := ls }).emit h c

/-- The second program is the first one with a line more that makes no difference. -/
structure Inert (h : Host) (m : Line) (place : Nat) (x x' : Workbench × Except Error Output) :
    Prop where
  /-- The line is in its place, and all others have the slots and flags that they have without. -/
  lines : x'.1.lines = x.1.lines.take place ++ m :: x.1.lines.drop place
  regions : x'.1.regions = x.1.regions
  symbols : x'.1.symbols = x.1.symbols
  slotCount : x'.1.slotCount = x.1.slotCount
  warnings : x'.1.warnings = x.1.warnings
  output : Agree (Output.SameCode h) x.2 x'.2

/-- The analysis and the resolution leave a comment that no label reaches over where it is. -/
theorem exists_prepare_append_cons (hm : m.record = .comment text)
    (hxs : Line.reaches xs ys = false) (c : Config) :
    ∃ front rest, front.length = xs.length ∧
      (prepare c { lines := xs ++ ys }).lines = front ++ rest ∧
      (prepare c { lines := xs ++ m :: ys }).lines =
        front ++ { m with slot := Line.slotCount xs } :: rest ∧
      (prepare c { lines := xs ++ m :: ys }).regions =
        (prepare c { lines := xs ++ ys }).regions ∧
      (prepare c { lines := xs ++ m :: ys }).symbols =
        (prepare c { lines := xs ++ ys }).symbols := by
  obtain ⟨xs', ys', rs, hwithout, hwith, hlength, hcount⟩ :=
    Region.exists_analyze_append_cons (Line.isLabel_of_comment hm) (Line.isByteData_of_comment hm)
      hxs c.romBase
  refine ⟨Line.stampFrom 0 xs', Line.stampFrom (Line.slotCount xs) ys', ?_, ?_, ?_, ?_, ?_⟩
  · rw [Line.length_stampFrom, hlength]
  · rw [lines_prepare, hwithout, Line.stampAll, Line.stampFrom_append, hcount, Nat.zero_add]
  · rw [lines_prepare, hwith, Line.stampAll, Line.stampFrom_append, hcount, Nat.zero_add,
      Line.stampFrom, Line.nextSlot_of_comment hm, Line.stamp_of_not_isDataLabel]
    rw [Line.isDataLabel, hm]
  · rw [regions_prepare, hwith, regions_prepare, hwithout]
  · rw [symbols_prepare, hwith, symbols_prepare, hwithout, Symbols.collect, Symbols.collect,
      Symbols.collectFrom_append, Symbols.collectFrom_append,
      Symbols.collectFrom_cons_of_comment hm]

/-- All that is read off the lines of a program is read off without the comment as well. -/
theorem sameCode_append_cons (hm : m.record = .comment text) (hxs : Line.reaches xs ys = false)
    (c : Config) :
    (prepare c { lines := xs ++ ys }).SameCode (prepare c { lines := xs ++ m :: ys }) := by
  obtain ⟨-, -, -, -, -, -, hsymbols⟩ := exists_prepare_append_cons hm hxs c
  refine sameCode_prepare ?_ ?_ ?_ (congrArg Symbols.codeLabels hsymbols.symm)
  · exact (Line.filterMap_append_cons (by rw [Line.instruction?, hm]) xs ys).symm
  · exact (Line.filterMap_append_cons (by rw [Line.definition?, hm]) xs ys).symm
  · exact (Line.filterMap_append_cons (by rw [Line.label?, hm]) xs ys).symm

theorem tables_append_cons (hm : m.record = .comment text) (hxs : Line.reaches xs ys = false)
    (c : Config) (h : Host) :
    (prepare c { lines := xs ++ m :: ys }).tables h c =
      (prepare c { lines := xs ++ ys }).tables h c := by
  obtain ⟨front, rest, -, hwithout, hwith, hregions, hsymbols⟩ :=
    exists_prepare_append_cons hm hxs c
  have hlabels : Output.labelLines h (prepare c { lines := xs ++ ys }).symbols
      (prepare c { lines := xs ++ m :: ys }).lines =
        Output.labelLines h (prepare c { lines := xs ++ ys }).symbols
          (prepare c { lines := xs ++ ys }).lines := by
    rw [Output.labelLines, hwith, Line.filterMap_append_cons, ← hwithout]
    · rfl
    · rw [Output.codeLabel?, hm]
  unfold Workbench.tables
  rw [← Output.definitionLines_congr (sameCode_append_cons hm hxs c).definitions, hregions,
    hsymbols, hlabels]

/-- Emission changes nothing that has been found before. -/
theorem fst_build (c : Config) (h : Host) (ls : List Line) :
    (build c h ls).1.lines = (prepare c { lines := ls }).lines ∧
      (build c h ls).1.regions = (prepare c { lines := ls }).regions ∧
      (build c h ls).1.symbols = (prepare c { lines := ls }).symbols ∧
      (build c h ls).1.slotCount = (prepare c { lines := ls }).slotCount :=
  ⟨Workbench.lines_emit rfl lines_prepare h c, Workbench.emit_fst_eq rfl⟩

/-- A comment that no label reaches over makes no difference. -/
theorem inert_of_not_reaches (hm : m.record = .comment text) (hxs : Line.reaches xs ys = false)
    (c : Config) (h : Host) :
    Inert h { m with slot := Line.slotCount xs } xs.length (build c h (xs ++ ys))
      (build c h (xs ++ m :: ys)) := by
  obtain ⟨front, rest, hlength, hwithout, hwith, hregions, hsymbols⟩ :=
    exists_prepare_append_cons hm hxs c
  obtain ⟨hlines, hrs, hs, hcount⟩ := fst_build c h (xs ++ ys)
  obtain ⟨hlines', hrs', hs', hcount'⟩ := fst_build c h (xs ++ m :: ys)
  have hcode := sameCode_append_cons hm hxs c
  have htables : Agree Eq ((prepare c { lines := xs ++ ys }).tables h c)
      ((prepare c { lines := xs ++ m :: ys }).tables h c) := by
    rw [tables_append_cons hm hxs]
    exact .refl _
  refine ⟨?_, ?_, ?_, ?_, ?_, ?_⟩
  · rw [hlines', hlines, hwith, hwithout, List.take_left' hlength, List.drop_left' hlength]
  · rw [hrs', hregions, hrs]
  · rw [hs', hsymbols, hs]
  · rw [hcount', ← hcode.slotCount_eq, hcount]
  · exact (hcode.warnings_emit_eq htables).symm
  · refine (hcode.agree_emit htables).mono ?_
    rintro o o' ⟨hdispatch, t, t', rfl, ho, ho'⟩
    rw [ho, ho']
    exact ⟨rfl, rfl, rfl, rfl, hdispatch.symm⟩

/-- A comment between two parts of a program makes no difference exactly if no label reaches over
it, so in any case if the lines next to it do not belong together. -/
theorem comment_inert (hm : m.record = .comment text) (c : Config) (h : Host) (xs ys : List Line) :
    (Line.joined xs ys = false →
        Inert h { m with slot := Line.slotCount xs } xs.length (build c h (xs ++ ys))
          (build c h (xs ++ m :: ys))) ∧
      (Inert h { m with slot := Line.slotCount xs } xs.length (build c h (xs ++ ys))
          (build c h (xs ++ m :: ys)) ↔ Line.reaches xs ys = false) := by
  have hinert := fun hxs : Line.reaches xs ys = false => inert_of_not_reaches hm hxs c h
  refine ⟨fun hjoined => hinert ?_, fun hsame => ?_, hinert⟩
  · rw [Bool.eq_false_iff] at hjoined ⊢
    exact fun hreaches => hjoined (Line.joined_of_reaches hreaches)
  · rw [Bool.eq_false_iff]
    intro hreaches
    have hregions := hsame.regions
    rw [(fst_build c h _).2.1, (fst_build c h _).2.1, regions_prepare, regions_prepare] at hregions
    exact Region.regions_append_cons_ne (Line.isLabel_of_comment hm)
      (Line.isByteData_of_comment hm) hreaches c.romBase hregions

def note : Line := { record := .comment "note" }

/-- A table behind an alias, as far as its first bytes. -/
def tableLines : List Line :=
  [{ record := .label { name := "alias" } }, { record := .label { name := "table" } },
    { record := .directive { name := ".db", operand := "1, 2" } }]

/-- Two labels of the same instruction, which mentions the table. -/
def entryLines : List Line :=
  [{ record := .label { name := "main" } }, { record := .label { name := "start" } },
    { record := .instruction { mnemonic := "LDA", operand := "table" } }]

/-- A comment may stand behind a table or between labels of code, but not within a table. -/
theorem comment_inert_of_note :
    note.record = .comment "note" ∧ ∀ h,
      Inert h { note with slot := 0 } 3 (build {} h (tableLines ++ entryLines))
          (build {} h (tableLines ++ note :: entryLines)) ∧
        Inert h { note with slot := 0 } 1 (build {} h (entryLines.take 1 ++ entryLines.drop 1))
          (build {} h (entryLines.take 1 ++ note :: entryLines.drop 1)) ∧
        ¬ Inert h { note with slot := 0 } 3 (build {} h (tableLines ++ tableLines.drop 2))
          (build {} h (tableLines ++ note :: tableLines.drop 2)) := by
  refine ⟨rfl, fun h => ⟨?_, ?_, fun hinert => ?_⟩⟩
  · exact (comment_inert rfl {} h tableLines entryLines).1 (by rfl)
  · exact (comment_inert rfl {} h (entryLines.take 1) (entryLines.drop 1)).2.mpr (by rfl)
  · have hreaches : Line.reaches tableLines (tableLines.drop 2) = true := by rfl
    rw [(comment_inert rfl {} h tableLines (tableLines.drop 2)).2.mp hinert] at hreaches
    cases hreaches

end Compilation

end AsmDispatch
