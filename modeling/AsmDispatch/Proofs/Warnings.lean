import AsmDispatch.Proofs.Failure

/-!
# Which diagnostics a source leaves

Two stages warn: one about labels that repeat a name, when the symbols are collected, and one about
transfers to a name that nothing declares, when the dispatch procedure is made.  The second stage
may be cut off, by a literal of the tables before it starts or by a literal of an instruction on its
way.  A warning never stands for the literal that is at fault, since a single name is always a
literal.  Every source replaces the diagnostics of the sources before it.

## Main statements

* `Listing.unknown_ofLines`: which lines are dropped.
* `Compilation.warnings_diagnostics`: which warnings there are, whether or not the source compiles.
* `Session.diagnostics_exact`: both, after any calls on a session.
-/

namespace AsmDispatch

open Literal (Site)

namespace Listing

/-- A fault for each line of source that has none of the forms, in order and with its number. -/
def unrecognised (filename : Text) (number : Nat) (ts : List Text) : List Fault :=
  (ts.zipIdx number).filterMap fun p =>
    if (classify? (Text.dropLineEnd p.1)).isNone then
      some { cause := .unknownLine (Text.dropLineEnd p.1)
             location := some { filename, line := p.2 } }
    else none

theorem unknown_ofLinesFrom (filename : Text) (number : Nat) (ts : List Text) :
    (ofLinesFrom filename number ts).unknown = unrecognised filename number ts := by
  unfold unrecognised
  induction ts generalizing number with
  | nil => rfl
  | cons t ts ih =>
    rw [ofLinesFrom, List.zipIdx_cons, List.filterMap_cons, readLine]
    cases classify? (Text.dropLineEnd t) with
    | none => exact congrArg _ (ih (number + 1))
    | some rs => exact ih (number + 1)

theorem unknown_ofLines (filename : Text) (ts : List Text) :
    (ofLines filename ts).unknown = unrecognised filename 1 ts :=
  unknown_ofLinesFrom filename 1 ts

/-- The literals of the tables, which are made before the dispatch procedure. -/
def tableSites (base : Int) (l : Listing) : List Site :=
  (Line.definitions l.lines).map (fun q => q.2.site q.1) ++
    (Region.analyze base l.lines).2.flatMap Region.sites

theorem sites_eq (base : Int) (l : Listing) :
    l.sites base = l.tableSites base ++ (Line.instructions l.lines).filterMap fun q =>
      q.2.site? q.1 := rfl

end Listing

/-! ## Transfers to a name -/

namespace Instruction

variable {i : Instruction}

/-- A branch, a call or a jump that is not indirect: the whole operand says where it leads. -/
def leadsByName (i : Instruction) : Bool :=
  match Family.ofMnemonic [] i.mnemonic with
  | .branch | .call => true
  | .jump => !i.isIndirect
  | _ => false

theorem namesTarget_eq (h : Host) (i : Instruction) : i.namesTarget h = i.leadsByName := by
  unfold namesTarget leadsByName
  rcases family_eq_or_escape h i with hfamily | ⟨hfamily, hgeneric⟩
  · cases hplain : Family.ofMnemonic [] i.mnemonic <;> simp only [hfamily, hplain]
  · simp only [hfamily, hgeneric]

theorem literal?_of_leadsByName (hi : i.leadsByName = true) : i.literal? = some i.operand := by
  unfold leadsByName at hi
  unfold literal?
  split at hi
  · next hfamily => rw [hfamily]
  · next hfamily => rw [hfamily]
  · next hfamily =>
    simp only [hfamily]
    rw [if_neg (by simpa using hi)]
  · cases hi

/-- Letters of ASCII are part of words. -/
theorem isWord_of_isAlpha {c : Char} (hc : c.isAlpha = true) : Text.isWord c = true := by
  have hcode : c.toNat < 128 := by
    change (decide (c.val ≥ 'A'.val ∧ c.val ≤ 'Z'.val) ||
      decide (c.val ≥ 'a'.val) && decide (c.val ≤ 'z'.val)) = true at hc
    simp only [Bool.or_eq_true, Bool.and_eq_true, decide_eq_true_eq, UInt32.le_iff_toNat_le] at hc
    change c.val.toNat < 128
    rcases hc with ⟨-, hc⟩ | ⟨-, hc⟩
    · exact hc.trans_lt (by decide)
    · exact hc.trans_lt (by decide)
  rw [Text.isWord, if_pos hcode, Char.isAlphanum, hc]
  rfl

theorem isWordRun_of_isName {t : Text} (ht : isName t = true) : Text.IsWordRun t := by
  cases t with
  | nil => cases ht
  | cons c t =>
    rw [isName, Bool.and_eq_true, Bool.or_eq_true, beq_iff_eq] at ht
    obtain ⟨hc, htail⟩ := ht
    refine ⟨List.cons_ne_nil c t, List.forall_mem_cons.mpr ⟨?_, List.all_eq_true.mp htail⟩⟩
    rcases hc with hc | rfl
    · exact isWord_of_isAlpha hc
    · decide +kernel

end Instruction

namespace Line

/-- The program declares the name, as a label or as a definition. -/
def declares (ls : List Line) (name : Text) : Bool :=
  (labelNames ls).contains name || (definitionNames ls).contains name

/-- What is said of an instruction that leads to a name that the program does not declare. -/
def undeclared? (ls : List Line) (q : Option Location × Instruction) : Option Text :=
  if q.2.leadsByName && Instruction.isName q.2.operand && !declares ls q.2.operand then
    some (Location.label q.1
      (q.2.mnemonic ++ " target '" ++ q.2.operand ++ "' is not a defined label"))
  else none

/-- The fault of the literal that an instruction evaluates. -/
def instructionFault? (q : Option Location × Instruction) : Option Fault :=
  (q.2.site? q.1).bind Site.fault?

/-- An instruction that is warned about has no fault. -/
theorem instructionFault?_of_undefinedTarget? {h : Host} {symbols : Symbols}
    {q : Option Location × Instruction} {warning : Text}
    (hq : q.2.undefinedTarget? h symbols q.1 = some warning) : instructionFault? q = none := by
  unfold Instruction.undefinedTarget? at hq
  split at hq
  · next hcond =>
    simp only [Bool.and_eq_true, Instruction.namesTarget_eq] at hcond
    obtain ⟨⟨hleads, hname⟩, -⟩ := hcond
    have hrun := Instruction.isWordRun_of_isName hname
    rw [instructionFault?, Instruction.site?, Instruction.literal?_of_leadsByName hleads,
      Option.map_some, Option.bind_some, Site.fault?_eq_none_iff]
    exact ⟨_, Literal.format_of_isWordRun hrun q.1 none⟩
  · cases hq

end Line

/-! ## Warnings of the two stages -/

namespace Body

variable {h : Host} {symbols : Symbols}

theorem warnings_cons (slot : Nat) (l : Line) (ls : List Line) :
    (ofLinesFrom h symbols slot (l :: ls)).warnings =
      (l.instruction?.bind fun q => q.2.undefinedTarget? h symbols q.1).toList ++
        match (l.stamp slot).entry h symbols slot with
        | .error _ => []
        | .ok _ => (ofLinesFrom h symbols (l.nextSlot slot) ls).warnings := by
  have hwarning : (l.stamp slot).undefinedTarget? h symbols =
      l.instruction?.bind fun q => q.2.undefinedTarget? h symbols q.1 := by
    rw [Line.undefinedTarget?, Line.record_stamp, Line.location_stamp, Line.instruction?]
    cases l.record <;> rfl
  rw [ofLinesFrom, hwarning, Line.nextSlot_stamp]
  cases (l.stamp slot).entry h symbols slot with
  | error f => exact (List.append_nil _).symm
  | ok e => rfl

/-- A body warns about the instructions in front of the first one at fault. -/
theorem warnings_ofLinesFrom
    (hsymbols : ∀ name slot, symbols.codeLabels.get? name = some slot → Text.IsWordRun name)
    (slot : Nat) (ls : List Line) :
    (ofLinesFrom h symbols slot ls).warnings =
      ((Line.instructions ls).takeWhile fun q => (Line.instructionFault? q).isNone).filterMap
        fun q => q.2.undefinedTarget? h symbols q.1 := by
  induction ls generalizing slot with
  | nil => rfl
  | cons l ls ih =>
    have hentry : Outcome.failure? ((l.stamp slot).entry h symbols slot) =
        l.instruction?.bind Line.instructionFault? := by
      rw [failure?_entry hsymbols, Line.instruction?_stamp]
      rfl
    rw [warnings_cons, Line.instructions, List.filterMap_cons]
    cases hq : l.instruction? with
    | none =>
      rw [hq, Option.bind_none, Outcome.failure?_eq_none_iff] at hentry
      obtain ⟨e, he⟩ := hentry
      simp only [he]
      exact ih _
    | some q =>
      rw [hq, Option.bind_some] at hentry
      rw [Option.bind_some]
      cases hfault : Line.instructionFault? q with
      | some f =>
        -- the instruction at fault is not warned about
        rw [hfault, Outcome.failure?_eq_some_iff] at hentry
        have hwarning : q.2.undefinedTarget? h symbols q.1 = none := by
          refine Option.eq_none_iff_forall_ne_some.mpr fun warning hwarning => ?_
          rw [Line.instructionFault?_of_undefinedTarget? hwarning] at hfault
          cases hfault
        simp only [hentry, hwarning]
        rw [List.takeWhile_cons_of_neg (by simp [hfault])]
        rfl
      | none =>
        rw [hfault, Outcome.failure?_eq_none_iff] at hentry
        obtain ⟨e, he⟩ := hentry
        simp only [he, ih]
        rw [List.takeWhile_cons_of_pos (by simp [hfault]), List.filterMap_cons]
        cases q.2.undefinedTarget? h symbols q.1 <;> rfl

end Body

namespace Workbench

/-- Only tables without a fault let the dispatch procedure warn. -/
theorem warnings_emit {w : Workbench} (hw : w.resolved = true) (h : Host) (c : Config) :
    (w.emit h c).1.warnings = w.warnings ++
      if (Outcome.failure? (w.tables h c)).isNone then
        (Body.ofLines h w.symbols w.lines).warnings else [] := by
  unfold emit
  simp only [hw, if_true]
  cases w.tables h c with
  | error f => exact (List.append_nil _).symm
  | ok tables => exact congrArg Workbench.warnings (dispatch_fst w h c)

end Workbench

namespace Compilation

variable {c : Config} {verbose : Bool} {filename : Text} {source : List Text} {l : Listing}

theorem warnings_prepare (c : Config) (l : Listing) :
    (prepare c l).warnings = Symbols.repetitions (Line.labels l.lines) := by
  rw [← Region.labels_analyze c.romBase, ← Symbols.warnings_collect]
  exact List.nil_append _

/-- The symbols are those that the program declares. -/
theorem has_symbols_prepare (c : Config) (l : Listing) (name : Text) :
    (prepare c l).symbols.has name = Line.declares l.lines name := by
  rw [Bool.eq_iff_iff, symbols_prepare, Symbols.has_collect_iff, Region.labelNames_analyze,
    Line.definitionNames, Region.definitions_analyze, Line.declares, Bool.or_eq_true,
    List.contains_iff_mem, List.contains_iff_mem, Line.definitionNames]

/-- The warning is the same for every host. -/
theorem undefinedTarget?_prepare (h : Host) (c : Config) (l : Listing)
    (q : Option Location × Instruction) :
    q.2.undefinedTarget? h (prepare c l).symbols q.1 = Line.undeclared? l.lines q := by
  rw [Instruction.undefinedTarget?, Line.undeclared?, Instruction.namesTarget_eq,
    has_symbols_prepare]

theorem failure?_tables_prepare (h : Host) (c : Config) (l : Listing) :
    Outcome.failure? ((prepare c l).tables h c) =
      (l.tableSites c.romBase).findSome? Site.fault? := by
  rw [Workbench.failure?_tables, Output.failure?_definitionLines, Output.failure?_dataLines,
    definitions_prepare, regions_prepare, Listing.tableSites, List.findSome?_append]

/-- The warnings of a compilation: the repeated labels, and behind them, if no table is at fault,
the undeclared targets in front of the first instruction at fault. -/
theorem warnings_diagnostics {h : Host} (hhost : Host.ofName? c.target = some h) :
    (ofLines c verbose filename source).diagnostics.warnings =
      Symbols.repetitions (Line.labels (Listing.ofLines filename source).lines) ++
        if (((Listing.ofLines filename source).tableSites c.romBase).findSome?
          Site.fault?).isNone then
          ((Line.instructions (Listing.ofLines filename source).lines).takeWhile fun q =>
            (Line.instructionFault? q).isNone).filterMap
              (Line.undeclared? (Listing.ofLines filename source).lines)
        else [] := by
  have hsymbols : ∀ name slot,
      (prepare c (Listing.ofLines filename source)).symbols.codeLabels.get? name = some slot →
        Text.IsWordRun name := fun name slot hslot =>
    (Listing.isRead_ofLines filename source).isWordRun_of_mem_labelNames
      (mem_labelNames_of_codeLabel hslot)
  unfold ofLines emit Workbench.withHost
  simp only [hhost]
  rw [Workbench.warnings_emit rfl, warnings_prepare, failure?_tables_prepare, Body.ofLines,
    Body.warnings_ofLinesFrom hsymbols, instructions_prepare]
  simp only [undefinedTarget?_prepare]

/-- The host has no say in the diagnostics. -/
theorem diagnostics_target (verbose : Bool) {host : Host}
    (hhost : Host.ofName? c.target = some host) (h : Host) :
    (ofLines { c with target := h.name } verbose filename source).diagnostics =
      (ofLines c verbose filename source).diagnostics := by
  have hwarnings : (ofLines { c with target := h.name } verbose filename
      source).diagnostics.warnings = (ofLines c verbose filename source).diagnostics.warnings :=
    (warnings_diagnostics (c := { c with target := h.name }) (Host.ofName?_name h)).trans
      (warnings_diagnostics hhost).symm
  exact congrArg (Diagnostics.mk _) hwarnings

end Compilation

/-! ## Reports -/

/-- The warnings that a listing leaves behind, by what its compilation fails with.  Repeated labels
come first.  If a literal of the tables is at fault, nothing follows; if one of an instruction is,
the undeclared targets in front of that instruction follow. -/
inductive Listing.Warns (base : Int) (l : Listing) : Option Error → List Text → Prop
  | compiled (accepted : ∀ s ∈ l.sites base, s.Accepted) :
      Warns base l none (Symbols.repetitions (Line.labels l.lines) ++
        (Line.instructions l.lines).filterMap (Line.undeclared? l.lines))
  | table {before behind : List Site} {s : Site} {f : Fault}
      (sites : l.tableSites base = before ++ s :: behind)
      (accepted : ∀ b ∈ before, b.Accepted) (fault : s.fault? = some f) :
      Warns base l (some (.fault f)) (Symbols.repetitions (Line.labels l.lines))
  | instruction {before behind : List (Option Location × Instruction)}
      {q : Option Location × Instruction} {s : Site} {f : Fault}
      (tables : ∀ s ∈ l.tableSites base, s.Accepted)
      (instructions : Line.instructions l.lines = before ++ q :: behind)
      (accepted : ∀ b ∈ before, ∀ s ∈ b.2.site? b.1, s.Accepted)
      (site : q.2.site? q.1 = some s) (fault : s.fault? = some f) :
      Warns base l (some (.fault f)) (Symbols.repetitions (Line.labels l.lines) ++
        before.filterMap (Line.undeclared? l.lines))

theorem Line.instructionFault?_eq_none_iff {q : Option Location × Instruction} :
    instructionFault? q = none ↔ ∀ s ∈ q.2.site? q.1, s.Accepted := by
  simp [instructionFault?, Option.bind_eq_none_iff, Site.fault?_eq_none_iff]

namespace Compilation

variable {c : Config} {filename : Text} {source : List Text}

theorem warns (verbose : Bool) {h : Host} (hhost : Host.ofName? c.target = some h) :
    (Listing.ofLines filename source).Warns c.romBase
      (Outcome.failure? (ofLines c verbose filename source).result)
      (ofLines c verbose filename source).diagnostics.warnings := by
  have hinstructions (ls : List Line) :
      ((Line.instructions ls).filterMap fun q => q.2.site? q.1).findSome? Site.fault? =
        (Line.instructions ls).findSome? Line.instructionFault? := findSome?_filterMap _ _ _
  rw [failure?_result hhost, warnings_diagnostics hhost, Listing.sites_eq, List.findSome?_append,
    hinstructions]
  cases htables : ((Listing.ofLines filename source).tableSites c.romBase).findSome?
      Site.fault? with
  | some f =>
    obtain ⟨before, s, behind, hsites, hs, hbefore⟩ := List.findSome?_eq_some_iff.mp htables
    rw [Option.isNone_some, if_neg Bool.false_ne_true, List.append_nil]
    exact .table hsites (fun b hb => Site.fault?_eq_none_iff.mp (hbefore b hb)) hs
  | none =>
    have haccepted : ∀ s ∈ (Listing.ofLines filename source).tableSites c.romBase, s.Accepted :=
      fun s hs => Site.fault?_eq_none_iff.mp (List.findSome?_eq_none_iff.mp htables s hs)
    rw [Option.isNone_none, if_pos rfl, Option.none_or]
    cases hfault : (Line.instructions (Listing.ofLines filename source).lines).findSome?
        Line.instructionFault? with
    | none =>
      have hnone := List.findSome?_eq_none_iff.mp hfault
      rw [List.takeWhile_eq_self_iff.mpr fun q hq => by rw [hnone q hq]; rfl]
      refine .compiled fun s hs => ?_
      rcases List.mem_append.mp hs with hs | hs
      · exact haccepted s hs
      · obtain ⟨q, hq, hsite⟩ := List.mem_filterMap.mp hs
        exact Line.instructionFault?_eq_none_iff.mp (hnone q hq) s hsite
    | some f =>
      obtain ⟨before, q, behind, hsplit, hq, hbefore⟩ := List.findSome?_eq_some_iff.mp hfault
      obtain ⟨s, hsite, hs⟩ := Option.bind_eq_some_iff.mp hq
      rw [hsplit, List.takeWhile_append_of_pos fun b hb => by rw [hbefore b hb]; rfl,
        List.takeWhile_cons_of_neg (by simp [hq]), List.append_nil]
      exact .instruction haccepted hsplit
        (fun b hb => Line.instructionFault?_eq_none_iff.mp (hbefore b hb)) hsite hs

end Compilation

namespace Session

/-- Something that is done with a session. -/
inductive Call where
  | lines (filename : Text) (source : List Text)
  | text (filename source : Text)
  | file (files : Tree) (path : Text)
  | set (setting : Setting)
  | clear

/-- The session after a call, whether or not it succeeds. -/
def call (s : Session) : Call → Session
  | .lines filename source => (s.compileLines filename source).1
  | .text filename source => (s.compileText filename source).1
  | .file files path => (s.compileFile files path).1
  | .set setting => s.set setting
  | .clear => s.clear

def after (s : Session) (calls : List Call) : Session := calls.foldl call s

/-- The session holds the diagnostics of a source and nothing else. -/
structure Reports (base : Int) (filename : Text) (source : List Text)
    (outcome : Session × Except Error Product) : Prop where
  dropped : outcome.1.diagnostics.dropped = Listing.unrecognised filename 1 source
  warnings : (Listing.ofLines filename source).Warns base (Outcome.failure? outcome.2)
    outcome.1.diagnostics.warnings

variable {s : Session}

theorem reports_compileLines (hs : s.config.validate = .ok ()) (filename : Text)
    (source : List Text) :
    Reports s.config.romBase filename source (s.compileLines filename source) := by
  obtain ⟨h, hhost⟩ := Compilation.exists_host_of_validate hs
  exact ⟨Listing.unknown_ofLines filename source, Compilation.warns false hhost⟩

theorem diagnostics_set_target (hs : s.config.validate = .ok ()) (h : Host) (filename : Text)
    (source : List Text) :
    ((s.set (.target h.name)).compileLines filename source).1.diagnostics =
      (s.compileLines filename source).1.diagnostics := by
  obtain ⟨host, hhost⟩ := Compilation.exists_host_of_validate hs
  exact Compilation.diagnostics_target false hhost h

/-- Whatever has been done with a session before, when it compiles lines or a text under a usable
configuration, its diagnostics afterwards are those of this source: the lines that were not
recognised, and the warnings that belong to the way the compilation ended.  For every host they are
the same. -/
theorem diagnostics_exact (s : Session) (calls : List Call)
    (hc : (s.after calls).config.validate = .ok ()) (filename : Text) (lines : List Text)
    (text : Text) :
    Reports (s.after calls).config.romBase filename lines
        ((s.after calls).compileLines filename lines) ∧
      Reports (s.after calls).config.romBase filename (Text.lines text)
        ((s.after calls).compileText filename text) ∧
      ∀ h : Host,
        (((s.after calls).set (.target h.name)).compileLines filename lines).1.diagnostics =
            ((s.after calls).compileLines filename lines).1.diagnostics ∧
          (((s.after calls).set (.target h.name)).compileText filename text).1.diagnostics =
            ((s.after calls).compileText filename text).1.diagnostics :=
  ⟨reports_compileLines hc filename lines, reports_compileLines hc filename (Text.lines text),
    fun h => ⟨diagnostics_set_target hc h filename lines,
      diagnostics_set_target hc h filename (Text.lines text)⟩⟩

/-- A source that fails, another one with a line that is dropped, a file that is not there, and
another target. -/
def earlierCalls : List Call :=
  [.text "first.asm" "a:\na: JMP b\n  LDA (", .lines "second.asm" ["?"],
    .file {} "none.asm", .set (.target Host.python.name)]

/-- A source with two repeated labels, a line that is dropped, and a literal at fault between two
undeclared targets. -/
def cutOffSource : List Text :=
  ["a:", "a: BNE nowhere", "b: JMP b", "??", "b:", "  LDA #%2", "  JSR elsewhere"]

def cutOffDiagnostics : Diagnostics where
  dropped := [{ cause := .unknownLine "??", location := some ⟨"cut.asm", 4, 1⟩ }]
  warnings := ["cut.asm:2:1: label 'a' defined more than once",
    "cut.asm:5:1: label 'b' defined more than once",
    "cut.asm:2:1: BNE target 'nowhere' is not a defined label"]

theorem diagnostics_exact_of_cutOff :
    (({ config := {} } : Session).after earlierCalls).config.validate = .ok () ∧
      Reports 0x8000 "cut.asm" cutOffSource
        ((({ config := {} } : Session).after earlierCalls).compileLines "cut.asm" cutOffSource) ∧
      (∀ h : Host, (((({ config := {} } : Session).after earlierCalls).set
          (.target h.name)).compileLines "cut.asm" cutOffSource).1.diagnostics =
        cutOffDiagnostics) ∧
      ∀ h : Host, (((({ config := {} } : Session).after earlierCalls).set
          (.target h.name)).compileText "cut.asm" "BIG = $\n  BEQ nowhere").1.diagnostics = {} := by
  have hvalid : (({ config := {} } : Session).after earlierCalls).config.validate = .ok () := by
    rfl
  have hlines : ((({ config := {} } : Session).after earlierCalls).compileLines "cut.asm"
      cutOffSource).1.diagnostics = cutOffDiagnostics := by decide +kernel
  have htext : ((({ config := {} } : Session).after earlierCalls).compileText "cut.asm"
      "BIG = $\n  BEQ nowhere").1.diagnostics = {} := by decide +kernel
  obtain ⟨hreports, -, hhosts⟩ :=
    diagnostics_exact _ _ hvalid "cut.asm" cutOffSource "BIG = $\n  BEQ nowhere"
  exact ⟨hvalid, hreports, fun h => (hhosts h).1.trans hlines, fun h => (hhosts h).2.trans htext⟩

end Session

end AsmDispatch
