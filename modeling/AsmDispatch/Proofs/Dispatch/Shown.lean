import AsmDispatch.Proofs.Dispatch.Case
import AsmDispatch.Proofs.Dispatch.Lines
import AsmDispatch.Proofs.Workbench.Walk

/-!
# What the body of a procedure shows

A label, a directive and a comment with text have one line each in the body, an instruction has the
line that opens its case and its statements, and nothing else has any.  All of these lines are set
in, so none of them is blank, and the blank lines that are dropped are those of records that show
nothing.

## Main statements

* `Line.shown_of_entry`: the lines of one record.
* `Workbench.body_keeps_lines`: the lines of a whole program.
-/

namespace AsmDispatch

open Dispatch (solid)

namespace Line

/-- The lines that a line of a program shows, in front of which there are `slot` instructions. -/
inductive Shown (h : Host) (symbols : Symbols) (slot : Nat) (l : Line) : List Text → Prop
  | definition {d : Definition} (record : l.record = .definition d) : Shown h symbols slot l []
  | emptyComment (record : l.record = .comment []) : Shown h symbols slot l []
  | comment {text : Text} (record : l.record = .comment text) (ne_nil : text ≠ []) :
    Shown h symbols slot l [h.indent 1 ++ h.comment text]
  | directive {d : Directive} (record : l.record = .directive d) :
    Shown h symbols slot l [h.indent 1 ++
      h.withComment (h.comment (Text.stripEnd (d.name ++ " " ++ d.operand))) d.comment]
  | codeLabel {d : Label} (record : l.record = .label d) (isData : d.isData = false) :
    Shown h symbols slot l [h.indent 1 ++
      h.withComment (h.comment (d.name ++ ": (" ++ Text.decimal slot ++ ")")) d.comment]
  | dataLabel {d : Label} (record : l.record = .label d) (isData : d.isData = true) :
    Shown h symbols slot l [h.indent 1 ++
      h.withComment (h.comment (d.name ++ ": (" ++ Text.hex l.slot ++ ")")) d.comment]
  | instruction {i : Instruction} {s : Statement} (record : l.record = .instruction i)
    (statement : i.statement h symbols l.location = .ok s) :
    Shown h symbols slot l (h.caseLine slot ::
      (s.linesWithComment h i.comment ++ s.onward h slot).map (h.indent 2 ++ ·))

variable {h : Host} {symbols : Symbols} {slot : Nat} {l : Line} {e : Entry}

theorem solid_lines_echo (text : Text) (comment : Option Text) :
    solid ((Entry.echo text comment).lines h) =
      [h.indent 1 ++ h.withComment (h.comment text) comment] := by
  refine Dispatch.solid_eq_self fun a ha => ?_
  rw [List.mem_singleton.mp ha]
  exact Entry.indent_append_ne_nil (by decide) _

theorem shown_echo (hl : l.isInstruction = false) :
    l.Shown h symbols slot (solid ((l.stamp slot).echo.lines h)) := by
  unfold echo
  rw [record_stamp]
  cases hrecord : l.record with
  | comment text =>
    cases text with
    | nil => exact .emptyComment hrecord
    | cons c t =>
      rw [solid_lines_echo]
      exact .comment hrecord (List.cons_ne_nil c t)
  | definition d => exact .definition hrecord
  | directive d =>
    rw [solid_lines_echo]
    exact .directive hrecord
  | label d =>
    have hflag : l.isDataLabel = d.isData := by simp only [isDataLabel, hrecord]
    rw [solid_lines_echo]
    cases hdata : d.isData with
    | true =>
      rw [stamp_of_isDataLabel (hflag.trans hdata), if_pos rfl]
      exact .dataLabel hrecord hdata
    | false =>
      rw [stamp_of_not_isDataLabel (hflag.trans hdata), if_neg Bool.false_ne_true]
      exact .codeLabel hrecord hdata
  | instruction i => simp [isInstruction, hrecord] at hl

/-- What is not blank of the entry of a line is what the line shows. -/
theorem shown_of_entry (he : (l.stamp slot).entry h symbols slot = .ok e) :
    l.Shown h symbols slot (solid (e.lines h)) := by
  rw [entry_eq_ok_iff, record_stamp, location_stamp, isInstruction_stamp] at he
  rcases he with ⟨i, s, hi, hs, rfl⟩ | ⟨hl, rfl⟩
  · rw [Dispatch.solid_eq_self fun a ha => Entry.ne_nil_of_mem_lines_step ha,
      Entry.lines_step_eq]
    exact .instruction hi hs
  · exact shown_echo hl

end Line

namespace Body

variable {h : Host} {symbols : Symbols} {slot : Nat} {ls : List Line} {es : List Entry}

/-- Each line has its entry, made at the slot of the instructions in front of it. -/
theorem entry_of_getElem? (hes : (ofLinesFrom h symbols slot ls).entries = .ok es) {k : Nat}
    {l : Line} {e : Entry} (hl : ls[k]? = some l) (he : es[k]? = some e) :
    (l.stamp (slot + Line.slotCount (ls.take k))).entry h symbols
      (slot + Line.slotCount (ls.take k)) = .ok e := by
  induction ls generalizing slot es k with
  | nil => cases hl
  | cons m ls ih =>
    obtain ⟨e', es', hentry, hes', rfl⟩ := entries_cons_eq_ok_iff.mp hes
    cases k with
    | zero =>
      cases hl
      cases he
      exact hentry
    | succ k =>
      rw [List.take_succ_cons, Line.slotCount_cons]
      exact ih hes' hl he

end Body

/-! ## Programs -/

namespace Workbench

variable {w : Workbench} {h : Host} {c : Config}

/-- The lines are a procedure for the program: between its first and its last lines it has, blank
lines apart, what each line of the program shows, in order. -/
def Shows (w : Workbench) (h : Host) (c : Config) (out : List Text) : Prop :=
  ∃ (body : List Text) (groups : List (List Text)),
    out = Dispatch.opening h c.stepName ++ body ++ Dispatch.closing h w.slotCount ∧
      Dispatch.collapse body = body ∧ solid body = groups.flatten ∧
      groups.length = w.lines.length ∧
      ∀ (k : Nat) (l : Line) (g : List Text), w.lines[k]? = some l → groups[k]? = some g →
        l.Shown h w.symbols (Line.slotCount (w.lines.take k)) g

theorem shows_lines {es : List Entry} (hes : (Body.ofLines h w.symbols w.lines).entries = .ok es) :
    w.Shows h c (Dispatch.lines h c.stepName w.slotCount es) := by
  refine ⟨Dispatch.collapse (es.flatMap (·.lines h)), es.map fun e => solid (e.lines h), rfl,
    Dispatch.collapse_collapse _, ?_, ?_, ?_⟩
  · rw [Dispatch.collapse, Dispatch.solid_collapseAfter, solid, List.filter_flatMap,
      List.flatMap_def]
    rfl
  · rw [List.length_map]
    exact (Body.forall₂_entries hes).length_eq.symm
  · intro k l g hl hg
    rw [List.getElem?_map] at hg
    obtain ⟨e, he, rfl⟩ := Option.map_eq_some_iff.mp hg
    have hentry := Body.entry_of_getElem? hes hl he
    rw [Nat.zero_add] at hentry
    exact Line.shown_of_entry hentry

theorem shows_dispatch {out : List Text} (hout : (w.dispatch h c).2 = .ok out) :
    w.Shows h c out := by
  rw [dispatch_snd] at hout
  cases hes : (Body.ofLines h w.symbols w.lines).entries with
  | error f =>
    simp only [hes] at hout
    cases hout
  | ok es =>
    simp only [hes] at hout
    split at hout
    · cases hout
      exact shows_lines hes
    · cases hout

/-- The procedure of an emission is made from the program as it is resolved. -/
theorem dispatch_of_emit {o : Output} (ho : (w.emit h c).2 = .ok o) :
    ((if w.resolved then w else w.resolve).dispatch h c).2 = .ok o.dispatch := by
  unfold emit at ho
  simp only at ho
  split at ho
  · cases ho
  · obtain ⟨out, hout, rfl⟩ := Outcome.map_eq_ok_iff.mp ho
    exact hout

/-- Dropping blank lines from a body keeps all other lines, leaves no blank line at the start and no
two next to each other, and leaves one where there was one or more.  To do it again changes nothing.
So a procedure has, in the order of the program, one line for each label, directive and comment with
text, and for each instruction the line that opens its case and its statements. -/
theorem body_keeps_lines :
    (∀ ls : List Text, Dispatch.Collapsed ls (Dispatch.collapse ls) ∧
        Dispatch.collapse (Dispatch.collapse ls) = Dispatch.collapse ls) ∧
      ∀ (w : Workbench) (h : Host) (c : Config),
        (∀ out, (w.dispatch h c).2 = .ok out → w.Shows h c out) ∧
          ∀ o, (w.emit h c).2 = .ok o →
            (if w.resolved then w else w.resolve).Shows h c o.dispatch := by
  constructor
  · intro ls
    exact ⟨Dispatch.collapsed_collapse ls, Dispatch.collapse_collapse ls⟩
  · intro w h c
    constructor
    · intro out hout
      exact shows_dispatch hout
    · intro o ho
      exact shows_dispatch (dispatch_of_emit ho)

/-- Records of every kind, and blank lines at the start, between them and at the end. -/
def spacedProgram : Workbench :=
  Compilation.prepare {} (Listing.ofLines "spaced.asm"
    ["", "; head", "", "ONE = 1", "", "start: ; entry", "  LDA #ONE", "", "", "  BNE start", "  RTS",
      "table:", "  .db 1", ""])

def spacedDispatch : List Text :=
  ["def step(pc):", "    # head", "", "    # start: (0)  # entry",
    "    if pc == 0:", "        LDA_immediate(ONE)", "        return 1", "",
    "    if pc == 1:", "        if BNE():", "            return 0", "        return 2",
    "    if pc == 2:", "        return RTS()",
    "    # table: (0x8000)", "    # .db 1", "", "    return pc"]

theorem body_keeps_lines_of_spaced :
    (spacedProgram.dispatch .python {}).2 = .ok spacedDispatch ∧
      spacedProgram.Shows .python {} spacedDispatch := by
  have hout : (spacedProgram.dispatch .python {}).2 = .ok spacedDispatch := by decide +kernel
  exact ⟨hout, (body_keeps_lines.2 spacedProgram .python {}).1 spacedDispatch hout⟩

end Workbench

end AsmDispatch
