import AsmDispatch.Proofs.Dispatch.Case
import AsmDispatch.Proofs.Warnings

/-!
# The code in the output

Blank lines and comments of the first level are there for the reader.  Without them nothing is left
of the dispatch procedure but its frame and its steps, and the steps depend on the instructions, on
the slots of code labels and on the names that are known.

## Main statements

* `Dispatch.codeLines_lines`: the code of the procedure is that of its steps.
* `Body.code_ofLinesFrom`: the steps and the warnings of a body are those of the instructions.
* `Workbench.SameCode.agree_emit`: programs with the same code have outputs with the same code.
-/

namespace AsmDispatch

open Outcome (Agree)

namespace Output

variable {h : Host}

/-- Whether a line holds a comment of the first level. -/
def isRemark (h : Host) (l : Text) : Bool := (h.indent 1 ++ h.commentMark).isPrefixOf l

/-- The lines of a block without blank lines and remarks. -/
def codeLines (h : Host) (block : List Text) : List Text :=
  block.filter fun l => !(l.isEmpty || isRemark h l)

theorem codeLines_append (xs ys : List Text) :
    codeLines h (xs ++ ys) = codeLines h xs ++ codeLines h ys := List.filter_append ..

theorem isRemark_commentMark_append (h : Host) (u : Text) :
    isRemark h (h.indent 1 ++ (h.commentMark ++ u)) = true := by
  rw [isRemark, List.isPrefixOf_iff_prefix, ← List.append_assoc]
  exact List.prefix_append _ _

theorem isRemark_comment (h : Host) (t : Text) : isRemark h (h.indent 1 ++ h.comment t) = true := by
  obtain ⟨u, hu⟩ := exists_comment_eq (h := h) t
  rw [hu]
  exact isRemark_commentMark_append h u

/-- A line of the second level is no remark, whatever source it holds. -/
theorem isRemark_indent_two (h : Host) (t : Text) : isRemark h (h.indent 2 ++ t) = false := by
  cases h <;> rfl

theorem isRemark_caseLine (h : Host) (n : Nat) : isRemark h (h.caseLine n) = false := by
  cases h <;> rfl

theorem codeLines_cons_of_isRemark {l : Text} (hl : isRemark h l = true) (block : List Text) :
    codeLines h (l :: block) = codeLines h block := by
  refine List.filter_cons_of_neg ?_
  rw [hl, Bool.or_true]
  exact Bool.false_ne_true

theorem codeLines_eq_self {block : List Text} (hne : ∀ l ∈ block, l ≠ [])
    (hremark : ∀ l ∈ block, isRemark h l = false) : codeLines h block = block := by
  refine List.filter_eq_self.mpr fun l hl => ?_
  rw [hremark l hl, Bool.or_false, Bool.not_eq_true', List.isEmpty_eq_false_iff]
  exact hne l hl

end Output

/-! ## The procedure -/

namespace Entry

open Output (codeLines)

variable {h : Host}

def isStep : Entry → Bool
  | .step .. => true
  | _ => false

/-- The steps of a body. -/
def steps (es : List Entry) : List Entry := es.filter isStep

theorem codeLines_lines (h : Host) (e : Entry) :
    codeLines h (e.lines h) = if e.isStep then e.lines h else [] := by
  cases e with
  | blank => rfl
  | echo text comment =>
    obtain ⟨u, hu⟩ := exists_withComment_comment_eq h text comment
    rw [lines, hu, Output.codeLines_cons_of_isRemark (Output.isRemark_commentMark_append h u)]
    rfl
  | step slot s comment =>
    refine Output.codeLines_eq_self (fun l hl => ne_nil_of_mem_lines_step hl) fun l hl => ?_
    rw [lines_step_eq] at hl
    rcases List.mem_cons.mp hl with rfl | hl
    · exact Output.isRemark_caseLine h slot
    · obtain ⟨t, -, rfl⟩ := List.mem_map.mp hl
      exact Output.isRemark_indent_two h t

theorem codeLines_flatMap (h : Host) (es : List Entry) :
    codeLines h (es.flatMap (·.lines h)) = (steps es).flatMap (·.lines h) := by
  unfold steps
  induction es with
  | nil => rfl
  | cons e es ih =>
    rw [List.flatMap_cons, Output.codeLines_append, ih, codeLines_lines, List.filter_cons]
    split
    · rw [List.flatMap_cons]
    · rfl

theorem steps_tidyAfter (blank : Bool) (es : List Entry) :
    steps (tidyAfter blank es) = steps es := by
  unfold steps
  induction es generalizing blank with
  | nil => rfl
  | cons e es ih =>
    cases e with
    | blank =>
      rw [tidyAfter]
      split
      · exact ih true
      · exact ih true
    | echo text comment => exact ih false
    | step slot s comment => exact congrArg (step slot s comment :: ·) (ih false)

end Entry

namespace Dispatch

open Output (codeLines)

theorem codeLines_opening (h : Host) (name : Text) :
    codeLines h (opening h name) = opening h name := by
  cases h <;> rfl

theorem codeLines_closing (h : Host) (slotCount : Nat) :
    codeLines h (closing h slotCount) = closing h slotCount := by
  cases h <;> rfl

/-- The code of the procedure is its frame with the code of its steps. -/
theorem codeLines_lines (h : Host) (name : Text) (slotCount : Nat) (es : List Entry) :
    codeLines h (lines h name slotCount es) =
      opening h name ++ (Entry.steps es).flatMap (·.lines h) ++ closing h slotCount := by
  rw [lines, Output.codeLines_append, Output.codeLines_append, codeLines_opening,
    codeLines_closing, Entry.collapse_lines, Entry.codeLines_flatMap, Entry.tidy,
    Entry.steps_tidyAfter]

end Dispatch

/-! ## Bodies -/

/-- What comes of instructions: the warnings about them, and their steps unless one is at fault. -/
structure Code where
  warnings : List Text
  steps : Except Fault (List Entry)

namespace Code

/-- The code of instructions from `slot` on. -/
def ofInstructions (h : Host) (symbols : Symbols) (slot : Nat) :
    List (Option Location × Instruction) → Code
  | [] => ⟨[], .ok []⟩
  | q :: qs =>
    let warnings := (q.2.undefinedTarget? h symbols q.1).toList
    match q.2.statement h symbols q.1 with
    | .error f => ⟨warnings, .error f⟩
    | .ok s =>
      let rest := ofInstructions h symbols (slot + 1) qs
      ⟨warnings ++ rest.warnings, rest.steps.map (.step slot s q.2.comment :: ·)⟩

/-- Of the symbols only the slots of code labels and the known names matter. -/
theorem ofInstructions_congr {symbols symbols' : Symbols}
    (hcode : symbols.codeLabels = symbols'.codeLabels)
    (hhas : ∀ name, symbols.has name = symbols'.has name) (h : Host) (slot : Nat)
    (qs : List (Option Location × Instruction)) :
    ofInstructions h symbols slot qs = ofInstructions h symbols' slot qs := by
  induction qs generalizing slot with
  | nil => rfl
  | cons q qs ih =>
    have htarget : q.2.target symbols q.1 = q.2.target symbols' q.1 := by
      rw [Instruction.target, hcode, Instruction.target]
    have hstatement : q.2.statement h symbols q.1 = q.2.statement h symbols' q.1 := by
      rw [Instruction.statement, htarget, Instruction.statement]
    have hwarning : q.2.undefinedTarget? h symbols q.1 = q.2.undefinedTarget? h symbols' q.1 := by
      rw [Instruction.undefinedTarget?, hhas, Instruction.undefinedTarget?]
    rw [ofInstructions, hstatement, hwarning, ih, ofInstructions]

end Code

namespace Body

variable {h : Host} {symbols : Symbols}

/-- What a body has without its echoes and its numbered lines. -/
def code (b : Body) : Code := ⟨b.warnings, b.entries.map Entry.steps⟩

theorem entries_cons (slot : Nat) (l : Line) (ls : List Line) :
    (ofLinesFrom h symbols slot (l :: ls)).entries =
      ((l.stamp slot).entry h symbols slot >>= fun e =>
        (ofLinesFrom h symbols (l.nextSlot slot) ls).entries.map (e :: ·)) := by
  rw [ofLinesFrom, Line.nextSlot_stamp]
  cases (l.stamp slot).entry h symbols slot with
  | error f => rfl
  | ok e => rfl

/-- Lines without an instruction add no code. -/
theorem code_cons_of_not {l : Line} (hl : l.isInstruction = false) (slot : Nat) (ls : List Line) :
    (ofLinesFrom h symbols slot (l :: ls)).code = (ofLinesFrom h symbols slot ls).code := by
  have hnext : l.nextSlot slot = slot := by rw [Line.nextSlot, hl, if_neg Bool.false_ne_true]
  have hnone : l.instruction? = none := by
    rw [Line.isInstruction_eq_isSome, Option.isSome_eq_false_iff, Option.isNone_iff_eq_none] at hl
    exact hl
  have hentry : (l.stamp slot).entry h symbols slot = .ok (l.stamp slot).echo :=
    Line.entry_eq_ok_iff.mpr (Or.inr ⟨(Line.isInstruction_stamp slot l).trans hl, rfl⟩)
  have hsteps : ∀ es, Entry.steps ((l.stamp slot).echo :: es) = Entry.steps es := by
    intro es
    rcases (l.stamp slot).echo_eq_blank_or_echo with heq | ⟨t, c, heq⟩
    · rw [heq]
      rfl
    · rw [heq]
      rfl
  rw [code, warnings_cons, entries_cons, hentry, hnone, hnext, code]
  refine congrArg (Code.mk _) ?_
  cases (ofLinesFrom h symbols slot ls).entries with
  | error f => rfl
  | ok es => exact congrArg Except.ok (hsteps es)

/-- An instruction adds its step in front. -/
theorem code_cons_of_record {l : Line} {i : Instruction} (hl : l.record = .instruction i)
    (slot : Nat) (ls : List Line) :
    (ofLinesFrom h symbols slot (l :: ls)).code =
      match i.statement h symbols l.location with
      | .error f => ⟨(i.undefinedTarget? h symbols l.location).toList, .error f⟩
      | .ok s =>
        ⟨(i.undefinedTarget? h symbols l.location).toList ++
            (ofLinesFrom h symbols (slot + 1) ls).code.warnings,
          (ofLinesFrom h symbols (slot + 1) ls).code.steps.map (.step slot s i.comment :: ·)⟩ := by
  have hnext : l.nextSlot slot = slot + 1 := by simp [Line.nextSlot, Line.isInstruction, hl]
  have hsome : l.instruction? = some (l.location, i) := by simp [Line.instruction?, hl]
  have hentry : (l.stamp slot).entry h symbols slot =
      (i.statement h symbols l.location >>= fun s => pure (.step slot s i.comment)) := by
    rw [Line.entry, Line.record_stamp, Line.location_stamp, hl]
  rw [code, warnings_cons, entries_cons, hentry, hsome, hnext]
  cases i.statement h symbols l.location with
  | error f => exact congrArg (Code.mk · _) (List.append_nil _)
  | ok s =>
    refine congrArg (Code.mk _) ?_
    rw [code]
    cases (ofLinesFrom h symbols (slot + 1) ls).entries with
    | error f => rfl
    | ok es => rfl

/-- The code of a body is that of the instructions of its program. -/
theorem code_ofLinesFrom (slot : Nat) (ls : List Line) :
    (ofLinesFrom h symbols slot ls).code =
      Code.ofInstructions h symbols slot (Line.instructions ls) := by
  induction ls generalizing slot with
  | nil => rfl
  | cons l ls ih =>
    by_cases hl : l.isInstruction = false
    · rw [code_cons_of_not hl, ih, Line.instructions_cons_of_not hl]
    · obtain ⟨i, hi⟩ : ∃ i, l.record = .instruction i := by
        unfold Line.isInstruction at hl
        split at hl
        · next i hi => exact ⟨i, hi⟩
        · exact absurd rfl hl
      rw [code_cons_of_record hi, ih, Line.instructions_cons_of_record hi, Code.ofInstructions]

end Body

/-! ## Definitions -/

namespace Output

variable {h : Host}

/-- The declaration of a definition at a place. -/
def definitionText (h : Host) (q : Option Location × Definition) : Except Fault Text := do
  let value ← Literal.format q.2.literal q.1
  return h.withComment (h.constant q.2.name value) q.2.comment

theorem mapM_definitionLine? (h : Host) (ls : List Line) :
    (ls.mapM (definitionLine? h)).map List.flatten =
      (Line.definitions ls).mapM (definitionText h) := by
  induction ls with
  | nil => rfl
  | cons l ls ih =>
    cases hl : l.record with
    | definition d =>
      have hhead : definitionLine? h l = (definitionText h (l.location, d)).map ([·]) := by
        rw [definitionLine?, hl, definitionText]
        simp only
        cases Literal.format d.literal l.location <;> rfl
      have hdefinitions : Line.definitions (l :: ls) = (l.location, d) :: Line.definitions ls := by
        rw [Line.definitions_cons, Line.definition?, hl]
        rfl
      rw [List.mapM_cons, hhead, hdefinitions, List.mapM_cons, ← ih]
      cases definitionText h (l.location, d) with
      | error f => rfl
      | ok t => cases ls.mapM (definitionLine? h) <;> rfl
    | comment | directive | label | instruction =>
      have hhead : definitionLine? h l = .ok [] := by rw [definitionLine?, hl]
      have hdefinitions : Line.definitions (l :: ls) = Line.definitions ls := by
        rw [Line.definitions_cons, Line.definition?, hl]
        rfl
      rw [List.mapM_cons, hhead, hdefinitions, ← ih]
      cases ls.mapM (definitionLine? h) <;> rfl

/-- The block of definitions depends on nothing but the definitions. -/
theorem definitionLines_congr {ls ls' : List Line}
    (hls : Line.definitions ls = Line.definitions ls') (h : Host) :
    definitionLines h ls = definitionLines h ls' := by
  have hblock : ∀ ls, definitionLines h ls =
      ((Line.definitions ls).mapM (definitionText h)).map (h.comment "Definitions" :: ·) := by
    intro ls
    rw [← mapM_definitionLine?, definitionLines]
    cases ls.mapM (definitionLine? h) <;> rfl
  rw [hblock, hls, ← hblock]

end Output

/-! ## Programs with the same code -/

namespace Workbench

variable {w w' : Workbench} {h : Host} {c : Config}

/-- Two resolved programs that are alike but for their data and for lines without code. -/
structure SameCode (w w' : Workbench) : Prop where
  resolved : w.resolved = true ∧ w'.resolved = true
  counted : Line.slotCount w.lines = w.slotCount ∧ Line.slotCount w'.lines = w'.slotCount
  instructions : Line.instructions w.lines = Line.instructions w'.lines
  definitions : Line.definitions w.lines = Line.definitions w'.lines
  codeLabels : w.symbols.codeLabels = w'.symbols.codeLabels
  has_eq : ∀ name, w.symbols.has name = w'.symbols.has name
  warnings : w.warnings = w'.warnings

namespace SameCode

theorem slotCount_eq (hw : SameCode w w') : w.slotCount = w'.slotCount := by
  rw [← hw.counted.1, ← hw.counted.2, ← Line.length_instructions, hw.instructions,
    Line.length_instructions]

theorem code_eq (hw : SameCode w w') (h : Host) :
    (Body.ofLines h w.symbols w.lines).code = (Body.ofLines h w'.symbols w'.lines).code := by
  rw [Body.ofLines, Body.ofLines, Body.code_ofLinesFrom, Body.code_ofLinesFrom, hw.instructions]
  exact Code.ofInstructions_congr hw.codeLabels hw.has_eq h 0 _

/-- If the tables of two such programs agree, then so do their outputs, and the procedures have the
same code. -/
theorem agree_emit (hw : SameCode w w') {R : Output → Output → Prop}
    (htables : Agree R (w.tables h c) (w'.tables h c)) :
    Agree (fun o o' => Output.codeLines h o.dispatch = Output.codeLines h o'.dispatch ∧
        ∃ t t', R t t' ∧ o = { t with dispatch := o.dispatch } ∧
          o' = { t' with dispatch := o'.dispatch })
      (w.emit h c).2 (w'.emit h c).2 := by
  rw [emit_snd_eq hw.resolved.1 hw.counted.1, emit_snd_eq hw.resolved.2 hw.counted.2,
    hw.slotCount_eq]
  have hsteps : Agree (fun es es' => Entry.steps es = Entry.steps es')
      (Body.ofLines h w.symbols w.lines).entries (Body.ofLines h w'.symbols w'.lines).entries :=
    Outcome.agree_of_map_eq (congrArg Code.steps (hw.code_eq h))
  generalize (Body.ofLines h w.symbols w.lines).entries = es at hsteps ⊢
  generalize (Body.ofLines h w'.symbols w'.lines).entries = es' at hsteps ⊢
  generalize w.tables h c = t at htables ⊢
  generalize w'.tables h c = t' at htables ⊢
  cases htables with
  | error f => exact .error _
  | ok rel =>
    cases hsteps with
    | error f => exact .error _
    | ok hes =>
      refine .ok ⟨?_, _, _, rel, rfl, rfl⟩
      rw [Dispatch.codeLines_lines, hes, Dispatch.codeLines_lines]

/-- Such programs are warned about alike, if their tables agree. -/
theorem warnings_emit_eq (hw : SameCode w w') {R : Output → Output → Prop}
    (htables : Agree R (w.tables h c) (w'.tables h c)) :
    (w.emit h c).1.warnings = (w'.emit h c).1.warnings := by
  have hbody : (Body.ofLines h w.symbols w.lines).warnings =
      (Body.ofLines h w'.symbols w'.lines).warnings := congrArg Code.warnings (hw.code_eq h)
  rw [warnings_emit hw.resolved.1, warnings_emit hw.resolved.2, hw.warnings, htables.failure?_eq,
    hbody]

end SameCode

end Workbench

namespace Compilation

/-- Programs of the same instructions, definitions and labels have the same code as soon as their
labels stand for the same slots. -/
theorem sameCode_prepare {c c' : Config} {l l' : Listing}
    (hinstructions : Line.instructions l.lines = Line.instructions l'.lines)
    (hdefinitions : Line.definitions l.lines = Line.definitions l'.lines)
    (hlabels : Line.labels l.lines = Line.labels l'.lines)
    (hcode : (prepare c l).symbols.codeLabels = (prepare c' l').symbols.codeLabels) :
    (prepare c l).SameCode (prepare c' l') where
  resolved := ⟨rfl, rfl⟩
  counted := ⟨slotCount_lines_prepare c l, slotCount_lines_prepare c' l'⟩
  instructions := by rw [instructions_prepare, instructions_prepare, hinstructions]
  definitions := by rw [definitions_prepare, definitions_prepare, hdefinitions]
  codeLabels := hcode
  has_eq := by
    intro name
    rw [has_symbols_prepare, has_symbols_prepare, Line.declares, Line.definitionNames,
      hdefinitions, Line.labelNames_eq_map_labels, hlabels, ← Line.labelNames_eq_map_labels]
    rfl
  warnings := by rw [warnings_prepare, warnings_prepare, hlabels]

end Compilation

end AsmDispatch
