import AsmDispatch.Proofs.Prepared

/-!
# Places appear in messages only

The place of a line goes into warnings and faults and nowhere else.  So the same lines under another
filename give the same output, or both give none.

Each stage is followed with the places taken away: first the stages that cannot fail, which commute
with taking them away, then those that can, whose results do not change.

## Main statements

* `Compilation.output?_ofLines`: the output of some lines does not depend on the filename.
-/

namespace AsmDispatch

/-- A line without its place. -/
def Line.bare (l : Line) : Line := { l with location := none }

/-- A region without its place. -/
def Region.bare (r : Region) : Region := { r with location := none }

/-- The recognised lines of a listing without their places. -/
def Listing.bare (l : Listing) : Listing := { lines := l.lines.map Line.bare }

/-! ## Reading, analysis and numbering -/

theorem Listing.map_bare_ofLinesFrom (filename filename' : Text) (number : Nat) (ts : List Text) :
    (ofLinesFrom filename number ts).lines.map Line.bare =
      (ofLinesFrom filename' number ts).lines.map Line.bare := by
  induction ts generalizing number with
  | nil => rfl
  | cons t ts ih =>
    rw [ofLinesFrom, ofLinesFrom]
    unfold readLine
    cases classify? (Text.dropLineEnd t) with
    | none => exact ih (number + 1)
    | some rs =>
      simp only [List.map_append, List.map_map, ih (number + 1)]
      rfl

namespace Region

theorem itemsBehind?_map_bare (ls : List Line) :
    itemsBehind? (ls.map Line.bare) = itemsBehind? ls :=
  itemsBehind?_map (f := Line.bare) (fun _ => rfl) (fun _ => rfl) (fun _ => rfl) ls

theorem analyze_map_bare (a : Int) (ls : List Line) :
    analyze a (ls.map Line.bare) = ((analyze a ls).1.map Line.bare, (analyze a ls).2.map bare) := by
  induction ls generalizing a with
  | nil => rfl
  | cons l ls ih =>
    have hrecord : l.bare.record = l.record := rfl
    rw [List.map_cons, analyze, analyze, itemsBehind?_map_bare, hrecord]
    split
    · simp only [ih, List.map_cons]
      rfl
    · simp only [ih, List.map_cons]

end Region

namespace Line

theorem stamp_bare (slot : Nat) (l : Line) : l.bare.stamp slot = (l.stamp slot).bare := by
  have hdata : l.bare.isDataLabel = l.isDataLabel := rfl
  unfold stamp
  rw [hdata]
  split <;> rfl

theorem stampFrom_map_bare (slot : Nat) (ls : List Line) :
    stampFrom slot (ls.map bare) = (stampFrom slot ls).map bare := by
  induction ls generalizing slot with
  | nil => rfl
  | cons l ls ih =>
    rw [List.map_cons, stampFrom, stampFrom, List.map_cons, stamp_bare, ← ih]
    rfl

theorem slotCount_map_bare (ls : List Line) : slotCount (ls.map bare) = slotCount ls := by
  rw [slotCount, List.countP_map]
  rfl

end Line

theorem Symbols.collectFrom_map_bare (slot : Nat) (s : Symbols) (ls : List Line) :
    (collectFrom slot s (ls.map Line.bare)).1 = (collectFrom slot s ls).1 := by
  induction ls generalizing slot s with
  | nil => rfl
  | cons l ls ih => exact ih _ _

/-! ## The blocks -/

theorem Literal.toOption_format (t : Text) (location location' : Option Location) :
    (format t location).toOption = (format t location').toOption := by
  unfold format
  cases parse t <;> rfl

namespace Output

variable (h : Host) (symbols : Symbols)

theorem labelLines_map_bare (ls : List Line) :
    labelLines h symbols (ls.map Line.bare) = labelLines h symbols ls := by
  rw [labelLines, List.filterMap_map, labelLines]
  rfl

theorem addressLines_map_bare (rs : List Region) :
    addressLines h symbols (rs.map Region.bare) = addressLines h symbols rs := by
  rw [addressLines, List.filter_map, List.map_map, addressLines]
  rfl

theorem toOption_definitionLine?_bare (l : Line) :
    (definitionLine? h l.bare).toOption = (definitionLine? h l).toOption := by
  have hrecord : l.bare.record = l.record := rfl
  unfold definitionLine?
  rw [hrecord]
  cases l.record with
  | definition d =>
    simp only [Outcome.toOption_bind, Literal.toOption_format d.literal l.bare.location l.location]
  | comment | directive | label | instruction => rfl

theorem toOption_definitionLines_map_bare (ls : List Line) :
    (definitionLines h (ls.map Line.bare)).toOption = (definitionLines h ls).toOption := by
  unfold definitionLines
  rw [Outcome.toOption_bind, Outcome.toOption_bind,
    Outcome.toOption_mapM_congr (toOption_definitionLine?_bare h)]

theorem toOption_regionLines_bare (r : Region) :
    (regionLines h r.bare).toOption = (regionLines h r).toOption := by
  have hvalues : (regionValues r.bare).toOption = (regionValues r).toOption := by
    have hitems := Outcome.toOption_mapM_congr (f := (Literal.format · r.location))
      (g := (Literal.format · none)) (k := id)
      (fun item => Literal.toOption_format item none r.location) r.items
    rw [List.map_id] at hitems
    exact hitems
  unfold regionLines
  rw [Outcome.toOption_bind, Outcome.toOption_bind, hvalues]
  rfl

theorem toOption_dataLines_map_bare (name : Text) (rs : List Region) :
    (dataLines h name (rs.map Region.bare)).toOption = (dataLines h name rs).toOption := by
  have htotal : Region.totalSize (rs.map Region.bare) = Region.totalSize rs := by
    induction rs with
    | nil => rfl
    | cons r rs ih => exact congrArg (r.size + ·) ih
  unfold dataLines
  rw [Outcome.toOption_bind, Outcome.toOption_bind,
    Outcome.toOption_mapM_congr (toOption_regionLines_bare h), htotal]

end Output

namespace Instruction

theorem toOption_addressed (i : Instruction) (location location' : Option Location) :
    (i.addressed location).toOption = (i.addressed location').toOption := by
  unfold addressed
  cases hliteral : (Operand.ofText i.operand).literal? with
  | none => simp only [hliteral]
  | some t =>
    simp only [hliteral, Outcome.toOption_bind, Literal.toOption_format t location location']

theorem toOption_target (symbols : Symbols) (i : Instruction)
    (location location' : Option Location) :
    (i.target symbols location).toOption = (i.target symbols location').toOption := by
  unfold target
  cases symbols.codeLabels.get? i.operand with
  | none => exact Literal.toOption_format i.operand location location'
  | some slot => rfl

theorem toOption_statement (h : Host) (symbols : Symbols) (i : Instruction)
    (location location' : Option Location) :
    (i.statement h symbols location).toOption = (i.statement h symbols location').toOption := by
  have haddressed := i.toOption_addressed location location'
  have htarget := i.toOption_target symbols location location'
  unfold statement
  cases i.family h with
  | loadStore | arithmetic => simp only [Outcome.toOption_bind, haddressed]
  | branch | call => simp only [Outcome.toOption_bind, htarget]
  | jump =>
    simp only
    split
    · simp only [Outcome.toOption_bind, haddressed]
    · simp only [Outcome.toOption_bind, htarget]
  | leave | escape | generic => rfl

end Instruction

namespace Body

theorem toOption_entry_bare (h : Host) (symbols : Symbols) (slot : Nat) (l : Line) :
    (l.bare.entry h symbols slot).toOption = (l.entry h symbols slot).toOption := by
  have hrecord : l.bare.record = l.record := rfl
  have hecho : l.bare.echo = l.echo := rfl
  unfold Line.entry
  rw [hrecord, hecho]
  cases l.record with
  | instruction i =>
    simp only [Outcome.toOption_bind, i.toOption_statement h symbols l.bare.location l.location]
  | comment | definition | directive | label => rfl

theorem toOption_entries_cons (h : Host) (symbols : Symbols) (slot : Nat) (l : Line)
    (ls : List Line) :
    (ofLinesFrom h symbols slot (l :: ls)).entries.toOption =
      ((l.stamp slot).entry h symbols slot).toOption.bind fun e =>
        (ofLinesFrom h symbols (l.nextSlot slot) ls).entries.toOption.map (e :: ·) := by
  rw [ofLinesFrom]
  cases (l.stamp slot).entry h symbols slot with
  | error f => rfl
  | ok e =>
    simp only [Line.nextSlot_stamp, Outcome.toOption_map]
    rfl

theorem toOption_entries_map_bare (h : Host) (symbols : Symbols) (slot : Nat) (ls : List Line) :
    (ofLinesFrom h symbols slot (ls.map Line.bare)).entries.toOption =
      (ofLinesFrom h symbols slot ls).entries.toOption := by
  induction ls generalizing slot with
  | nil => rfl
  | cons l ls ih =>
    have hnext : l.bare.nextSlot slot = l.nextSlot slot := rfl
    rw [List.map_cons, toOption_entries_cons, toOption_entries_cons, Line.stamp_bare,
      toOption_entry_bare, hnext, ih]

end Body

/-! ## The output -/

theorem Workbench.toOption_tables (w : Workbench) (h : Host) (c : Config) :
    (w.tables h c).toOption =
      (Output.definitionLines h w.lines).toOption.bind fun definitions =>
        (Output.dataLines h c.tableName w.regions).toOption.bind fun data => some
          { labels := Output.labelLines h w.symbols w.lines
            definitions
            addresses := Output.addressLines h w.symbols w.regions
            data
            dispatch := [] } := by
  unfold tables
  simp only [Outcome.toOption_bind]
  rfl

namespace Compilation

variable (c : Config)

theorem lines_prepare_bare (l : Listing) :
    (prepare c l.bare).lines = (prepare c l).lines.map Line.bare := by
  rw [lines_prepare, lines_prepare, Listing.bare, Region.analyze_map_bare, Line.stampAll,
    Line.stampFrom_map_bare]
  rfl

theorem regions_prepare_bare (l : Listing) :
    (prepare c l.bare).regions = (prepare c l).regions.map Region.bare := by
  rw [regions_prepare, regions_prepare, Listing.bare, Region.analyze_map_bare]

theorem symbols_prepare_bare (l : Listing) :
    (prepare c l.bare).symbols = (prepare c l).symbols := by
  rw [symbols_prepare, symbols_prepare, Listing.bare, Region.analyze_map_bare, Symbols.collect,
    Symbols.collectFrom_map_bare]
  rfl

theorem slotCount_prepare_bare (l : Listing) :
    (prepare c l.bare).slotCount = (prepare c l).slotCount := by
  rw [slotCount_prepare, slotCount_prepare]
  exact Line.slotCount_map_bare l.lines

theorem toOption_emit_prepare (h : Host) (l : Listing) :
    ((prepare c l).emit h c).2.toOption =
      ((prepare c l).tables h c).toOption.bind fun tables =>
        (Body.ofLines h (prepare c l).symbols (prepare c l).lines).entries.toOption.map fun es =>
          { tables with dispatch := Dispatch.lines h c.stepName (prepare c l).slotCount es } := by
  rw [Workbench.emit_snd_eq rfl (slotCount_lines_prepare c l)]
  cases (prepare c l).tables h c with
  | error f => rfl
  | ok tables =>
    cases (Body.ofLines h (prepare c l).symbols (prepare c l).lines).entries with
    | error f => rfl
    | ok es => rfl

/-- The output of a listing is that of its bare lines. -/
theorem toOption_emit_bare (h : Host) (l : Listing) :
    ((prepare c l.bare).emit h c).2.toOption = ((prepare c l).emit h c).2.toOption := by
  have htables : ((prepare c l.bare).tables h c).toOption =
      ((prepare c l).tables h c).toOption := by
    rw [Workbench.toOption_tables, Workbench.toOption_tables, lines_prepare_bare,
      regions_prepare_bare, symbols_prepare_bare, Output.toOption_definitionLines_map_bare,
      Output.toOption_dataLines_map_bare, Output.labelLines_map_bare,
      Output.addressLines_map_bare]
  rw [toOption_emit_prepare, toOption_emit_prepare, htables, symbols_prepare_bare,
    lines_prepare_bare, slotCount_prepare_bare, Body.ofLines, Body.toOption_entries_map_bare,
    Body.ofLines]

/-- The output of a compilation, if it has one. -/
def output? (x : Compilation) : Option Output := x.result.toOption.map Product.output

theorem output?_of_host {h : Host} (hhost : Host.ofName? c.target = some h) (verbose : Bool)
    (filename : Text) (source : List Text) :
    (ofLines c verbose filename source).output? =
      ((prepare c (Listing.ofLines filename source)).emit h c).2.toOption := by
  rw [output?, result_of_host hhost, Outcome.toOption_map, Option.map_map]
  exact Option.map_id'

theorem output?_of_no_host (hhost : Host.ofName? c.target = none) (verbose : Bool)
    (filename : Text) (source : List Text) :
    (ofLines c verbose filename source).output? = none := by
  unfold output? ofLines emit Workbench.withHost
  simp only [hhost]
  rfl

/-- The same lines under another name have the same output. -/
theorem output?_ofLines (verbose verbose' : Bool) (filename filename' : Text)
    (source : List Text) :
    (ofLines c verbose filename source).output? =
      (ofLines c verbose' filename' source).output? := by
  cases hhost : Host.ofName? c.target with
  | none => rw [output?_of_no_host c hhost, output?_of_no_host c hhost]
  | some h =>
    have hbare : (Listing.ofLines filename source).bare =
        (Listing.ofLines filename' source).bare :=
      congrArg (fun ls => ({ lines := ls } : Listing))
        (Listing.map_bare_ofLinesFrom filename filename' 1 source)
    rw [output?_of_host c hhost, output?_of_host c hhost, ← toOption_emit_bare, hbare,
      toOption_emit_bare]

end Compilation

end AsmDispatch
