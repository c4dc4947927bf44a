import AsmDispatch.Line.Form
import AsmDispatch.Proofs.Literal.Derivation
import AsmDispatch.Proofs.Text.Strip

/-!
# Lines taken apart

The eight forms of lines, as layouts that keep every character.  A layout may cut a run of blanks
anywhere, and an operand may take the blanks in front of a comment or leave them; the records do not
depend on it.  With `?` for a part that may be missing,

    blank       blank*
    comment     blank* ';' rest
    definition  word+ blank* '=' blank* [^;]* (';' rest)?
    directive   blank+ '.' word+ tail
    label       word+ ':' (blank* ';' rest)?
    instruction blank+ word+ tail
    tail        (blank+ [^;]*)? (blank* ';' rest)?

and a word and a colon may stand in front of a directive or an instruction.  The rest of a line
holds no line feed; blanks and operands may.

## Main statements

* `Form.read?_eq_some_iff`: a form reads a line exactly if the line has a layout of that form.
* `Form.Layout.form_eq_ofOpening`: how a line opens tells the only form that it can have.
* `Form.classify?_eq_read?`: so that form alone decides what the line is.
-/

namespace AsmDispatch.Form

open Text (isBlank isWord run? strip stripStart stripEnd isOneLine Stops)
open Literal (Gap Run)

/-! ## Parts of lines -/

/-- Text without a character. -/
structure Without (c : Char) where
  text : Text
  not_mem : c ∉ text

/-- A semicolon and the rest of the line, if there is a comment. -/
def noteText : Option (Without '\n') → Text
  | none => []
  | some r => ';' :: r.text

def noteOf (remark : Option (Without '\n')) : Option Text := remark.bind fun r => note r.text

/-- A comment with the blanks in front of it. -/
structure Remark where
  gap : Gap
  rest : Without '\n'

def Remark.text (r : Remark) : Text := r.gap.text ++ ';' :: r.rest.text

/-- What may follow a mnemonic or the name of a directive. -/
structure Tail where
  operand : Option (Run isBlank × Without ';')
  remark : Option Remark

namespace Tail

def text (t : Tail) : Text :=
  t.operand.elim [] (fun p => p.1.text ++ p.2.text) ++ t.remark.elim [] Remark.text

def operandText (t : Tail) : Text := t.operand.elim [] fun p => strip p.2.text

def note (t : Tail) : Option Text := t.remark.bind fun r => Form.note r.rest.text

end Tail

/-- A line of one of the forms, with the places at which it is cut. -/
inductive Layout where
  | blank (gap : Gap)
  | comment (remark : Remark)
  | definition (name : Run isWord) (before after : Gap) (literal : Without ';')
      (remark : Option (Without '\n'))
  | directive (indent : Run isBlank) (keyword : Run isWord) (tail : Tail)
  | label (name : Run isWord) (remark : Option Remark)
  | labelledInstruction (name : Run isWord) (indent : Run isBlank) (mnemonic : Run isWord)
      (tail : Tail)
  | labelledDirective (name : Run isWord) (indent : Run isBlank) (keyword : Run isWord)
      (tail : Tail)
  | instruction (indent : Run isBlank) (mnemonic : Run isWord) (tail : Tail)

namespace Layout

def form : Layout → Form
  | .blank .. => .blank
  | .comment .. => .comment
  | .definition .. => .definition
  | .directive .. => .directive
  | .label .. => .label
  | .labelledInstruction .. => .labelledInstruction
  | .labelledDirective .. => .labelledDirective
  | .instruction .. => .instruction

def text : Layout → Text
  | .blank gap => gap.text
  | .comment remark => remark.text
  | .definition name before after literal remark =>
    name.text ++ (before.text ++ '=' :: (after.text ++ literal.text ++ noteText remark))
  | .directive indent keyword tail => indent.text ++ '.' :: (keyword.text ++ tail.text)
  | .label name remark => name.text ++ ':' :: remark.elim [] Remark.text
  | .labelledInstruction name indent mnemonic tail =>
    name.text ++ ':' :: (indent.text ++ (mnemonic.text ++ tail.text))
  | .labelledDirective name indent keyword tail =>
    name.text ++ ':' :: (indent.text ++ '.' :: (keyword.text ++ tail.text))
  | .instruction indent mnemonic tail => indent.text ++ (mnemonic.text ++ tail.text)

def directiveRecord (keyword : Run isWord) (tail : Tail) : Record :=
  .directive { name := '.' :: keyword.text, operand := tail.operandText, comment := tail.note }

def instructionRecord (mnemonic : Run isWord) (tail : Tail) : Record :=
  .instruction (.ofText mnemonic.text tail.operandText tail.note)

def records : Layout → List Record
  | .blank _ => [.comment []]
  | .comment remark => [.comment (strip remark.rest.text)]
  | .definition name _ _ literal remark =>
    [.definition { name := name.text, literal := strip literal.text, comment := noteOf remark }]
  | .directive _ keyword tail => [directiveRecord keyword tail]
  | .label name remark =>
    [.label { name := name.text, comment := remark.bind fun r => note r.rest.text }]
  | .labelledInstruction name _ mnemonic tail =>
    [.label { name := name.text }, instructionRecord mnemonic tail]
  | .labelledDirective name _ keyword tail =>
    [.label { name := name.text }, directiveRecord keyword tail]
  | .instruction _ mnemonic tail => [instructionRecord mnemonic tail]

end Layout

/-! ## The part in front of the comment -/

section Note

variable {t u : Text}

theorem beforeNote_append_fromNote (t : Text) : beforeNote t ++ fromNote t = t :=
  List.takeWhile_append_dropWhile

theorem not_mem_beforeNote (t : Text) : ';' ∉ beforeNote t := by
  intro hmem
  have hne := List.all_eq_true.mp (List.all_takeWhile (l := t)) _ hmem
  exact absurd hne (by decide)

theorem ne_of_not_mem (h : ';' ∉ t) : ∀ c ∈ t, decide (c ≠ ';') = true := by
  intro c hc
  rw [decide_eq_true_eq]
  rintro rfl
  exact h hc

theorem beforeNote_of_not_mem (h : ';' ∉ t) : beforeNote t = t :=
  List.takeWhile_eq_self_iff.mpr (ne_of_not_mem h)

theorem fromNote_of_not_mem (h : ';' ∉ t) : fromNote t = [] :=
  List.dropWhile_eq_nil_iff.mpr (ne_of_not_mem h)

theorem beforeNote_append (h : ';' ∉ t) (u : Text) : beforeNote (t ++ ';' :: u) = t :=
  Text.takeWhile_append_stops (ne_of_not_mem h) (Text.stops_cons.mpr (by decide))

theorem fromNote_append (h : ';' ∉ t) (u : Text) : fromNote (t ++ ';' :: u) = ';' :: u :=
  Text.dropWhile_append_stops (ne_of_not_mem h) (Text.stops_cons.mpr (by decide))

/-- A text is cut where its comment starts. -/
theorem cut_noteText (h : ';' ∉ t) (remark : Option (Without '\n')) :
    beforeNote (t ++ noteText remark) = t ∧ fromNote (t ++ noteText remark) = noteText remark := by
  cases remark with
  | none =>
    rw [noteText, List.append_nil]
    exact ⟨beforeNote_of_not_mem h, fromNote_of_not_mem h⟩
  | some r => exact ⟨beforeNote_append h r.text, fromNote_append h r.text⟩

theorem readNote?_cons (h : '\n' ∉ u) : readNote? (';' :: u) = some (note u) := by
  have hline : isOneLine u = true := by simpa [isOneLine] using h
  simp [readNote?, hline]

theorem readNote?_noteText (remark : Option (Without '\n')) :
    readNote? (noteText remark) = some (noteOf remark) := by
  cases remark with
  | none => rfl
  | some r => exact readNote?_cons r.not_mem

/-- A comment is read from nothing or from a semicolon and the rest of the line. -/
theorem exists_of_readNote? {x : Option Text} (h : readNote? t = some x) :
    ∃ remark, noteText remark = t ∧ noteOf remark = x := by
  unfold readNote? at h
  split at h
  · next u =>
    split at h
    · next hline =>
      cases h
      have hfeed : '\n' ∉ u := by simpa [isOneLine] using hline
      exact ⟨some ⟨u, hfeed⟩, rfl, rfl⟩
    · cases h
  · cases h
    exact ⟨none, rfl, rfl⟩
  · cases h

end Note

/-! ## The parts are read as they stand -/

section Read

variable {t r operand : Text} {remark : Option Text}

/-- A tail as the reader cuts it: up to the first semicolon, and from there on. -/
theorem Tail.cut_text (tail : Tail) :
    beforeNote tail.text = tail.operand.elim [] (fun p => p.1.text ++ p.2.text) ++
      tail.remark.elim [] (·.gap.text) ∧
    fromNote tail.text = noteText (tail.remark.map (·.rest)) := by
  obtain ⟨operand, remark⟩ := tail
  have hoperand : ';' ∉ operand.elim [] (fun p => p.1.text ++ p.2.text) := by
    cases operand with
    | none => exact List.not_mem_nil
    | some p => exact List.not_mem_append (p.1.not_mem (by decide)) p.2.not_mem
  have hgap : ';' ∉ remark.elim [] (·.gap.text) := by
    cases remark with
    | none => exact List.not_mem_nil
    | some r => exact r.gap.not_mem (by decide)
  have htext : remark.elim [] Remark.text =
      remark.elim [] (·.gap.text) ++ noteText (remark.map (·.rest)) := by
    cases remark <;> rfl
  rw [text, htext, ← List.append_assoc]
  exact cut_noteText (List.not_mem_append hoperand hgap) _

/-- An operand is all that stands in front of the comment, if a blank sets it off. -/
theorem readOperand?_eq_some_iff : readOperand? t = some (operand, remark) ↔
    readNote? (fromNote t) = some remark ∧ (∀ c ∈ (beforeNote t).head?, isBlank c = true) ∧
      strip (beforeNote t) = operand := by
  unfold readOperand?
  simp only [Option.bind_eq_bind, Option.bind_eq_some_iff, Option.pure_def]
  constructor
  · rintro ⟨remark', hremark, h⟩
    split at h
    · next hbefore =>
      cases h
      rw [hbefore]
      exact ⟨hremark, by simp, rfl⟩
    · next c u hbefore =>
      split at h
      · next hc =>
        cases h
        rw [hbefore]
        exact ⟨hremark, by simpa using hc, rfl⟩
      · cases h
  · rintro ⟨hremark, hhead, rfl⟩
    refine ⟨remark, hremark, ?_⟩
    split
    · next hbefore =>
      rw [hbefore]
      rfl
    · next c u hbefore =>
      rw [hbefore] at hhead ⊢
      rw [if_pos (hhead c rfl)]

theorem readOperand?_text (tail : Tail) :
    readOperand? tail.text = some (tail.operandText, tail.note) := by
  obtain ⟨hbefore, hfrom⟩ := tail.cut_text
  rw [readOperand?_eq_some_iff, hbefore, hfrom]
  obtain ⟨operand, remark⟩ := tail
  have hgap : ∀ c ∈ remark.elim [] (·.gap.text), isBlank c = true := by
    cases remark with
    | none => simp
    | some r => exact r.gap.all_blank
  refine ⟨?_, ?_, ?_⟩
  · rw [readNote?_noteText]
    cases remark <;> rfl
  · intro c hc
    cases operand with
    | none => exact hgap c (List.mem_of_mem_head? hc)
    | some p =>
      obtain ⟨d, u, hu⟩ := List.exists_cons_of_ne_nil p.1.ne_nil
      simp only [Option.elim_some, hu, List.cons_append, List.head?_cons, Option.mem_some_iff] at hc
      exact p.1.all c (by simp [hu, hc])
  · rw [Text.strip_append_of_blank_right hgap]
    cases operand with
    | none => rfl
    | some p => exact Text.strip_append_of_blank p.1.all

theorem exists_tail_of_readOperand? (h : readOperand? t = some (operand, remark)) :
    ∃ tail : Tail, tail.text = t ∧ tail.operandText = operand ∧ tail.note = remark := by
  obtain ⟨hremark, hhead, rfl⟩ := readOperand?_eq_some_iff.mp h
  obtain ⟨rest, hrest, rfl⟩ := exists_of_readNote? hremark
  have hsplit := beforeNote_append_fromNote t
  have hnote : (rest.map (Remark.mk .none)).elim [] Remark.text = fromNote t := by
    rw [← hrest]
    cases rest <;> rfl
  have hsame : (rest.map (Remark.mk .none)).bind (fun r => note r.rest.text) = noteOf rest := by
    cases rest <;> rfl
  cases hbefore : beforeNote t with
  | nil =>
    rw [hbefore, ← hnote] at hsplit
    exact ⟨⟨none, rest.map (Remark.mk .none)⟩, hsplit, rfl, hsame⟩
  | cons c u =>
    have hc : ∀ d ∈ [c], isBlank d = true := by simpa [hbefore] using hhead
    have hu : ';' ∉ u := by
      have hmem := not_mem_beforeNote t
      rw [hbefore] at hmem
      exact fun h => hmem (List.mem_cons_of_mem c h)
    rw [hbefore, ← hnote] at hsplit
    exact ⟨⟨some (⟨[c], List.cons_ne_nil c [], hc⟩, ⟨u, hu⟩), rest.map (Remark.mk .none)⟩, hsplit,
      (Text.strip_append_of_blank hc).symm, hsame⟩

theorem stopsWord_indent_append (indent : Run isBlank) (t : Text) :
    Stops isWord (indent.text ++ t) := by
  obtain ⟨c, u, hu⟩ := List.exists_cons_of_ne_nil indent.ne_nil
  rw [hu, List.cons_append, Text.stops_cons]
  exact Text.isWord_eq_false_of_isBlank (indent.all c (by simp [hu]))

/-- Behind a mnemonic or the name of a directive the word has ended. -/
theorem Tail.stops_text (tail : Tail) : Stops isWord tail.text := by
  obtain ⟨operand, remark⟩ := tail
  have hremark : Stops isWord (remark.elim [] Remark.text) := by
    cases remark with
    | none => exact Text.stops_nil
    | some r =>
      exact Text.stopsWord_append_of_blank r.gap.all_blank (Text.stops_cons.mpr (by decide))
  cases operand with
  | none => exact hremark
  | some p =>
    rw [text, Option.elim_some, List.append_assoc]
    exact stopsWord_indent_append p.1 _

theorem readDirective?_text (keyword : Run isWord) (tail : Tail) :
    readDirective? ('.' :: (keyword.text ++ tail.text)) =
      some (Layout.directiveRecord keyword tail) := by
  simp only [readDirective?, Text.run?_append keyword.all keyword.ne_nil tail.stops_text,
    readOperand?_text, Option.bind_eq_bind, Option.bind_some]
  rfl

theorem readInstruction?_text (mnemonic : Run isWord) (tail : Tail) :
    readInstruction? (mnemonic.text ++ tail.text) =
      some (Layout.instructionRecord mnemonic tail) := by
  simp only [readInstruction?, Text.run?_append mnemonic.all mnemonic.ne_nil tail.stops_text,
    readOperand?_text, Option.bind_eq_bind, Option.bind_some]
  rfl

theorem exists_of_readDirective? {d : Record} (h : readDirective? t = some d) :
    ∃ (keyword : Run isWord) (tail : Tail), t = '.' :: (keyword.text ++ tail.text) ∧
      d = Layout.directiveRecord keyword tail := by
  unfold readDirective? at h
  split at h
  · next u =>
    obtain ⟨⟨name, r⟩, hrun, h⟩ := Option.bind_eq_some_iff.mp h
    obtain ⟨⟨operand, remark⟩, hoperand, h⟩ := Option.bind_eq_some_iff.mp h
    cases h
    obtain ⟨rfl, hne, hall⟩ := Text.eq_append_of_run?_eq_some hrun
    obtain ⟨tail, rfl, rfl, rfl⟩ := exists_tail_of_readOperand? hoperand
    exact ⟨⟨name, hne, hall⟩, tail, rfl, rfl⟩
  · cases h

theorem exists_of_readInstruction? {i : Record} (h : readInstruction? t = some i) :
    ∃ (mnemonic : Run isWord) (tail : Tail), t = mnemonic.text ++ tail.text ∧
      i = Layout.instructionRecord mnemonic tail := by
  obtain ⟨⟨name, r⟩, hrun, h⟩ := Option.bind_eq_some_iff.mp h
  obtain ⟨⟨operand, remark⟩, hoperand, h⟩ := Option.bind_eq_some_iff.mp h
  cases h
  obtain ⟨rfl, hne, hall⟩ := Text.eq_append_of_run?_eq_some hrun
  obtain ⟨tail, rfl, rfl, rfl⟩ := exists_tail_of_readOperand? hoperand
  exact ⟨⟨name, hne, hall⟩, tail, rfl, rfl⟩

theorem readName?_append (name : Run isWord) (t : Text) :
    readName? (name.text ++ ':' :: t) = some (name.text, t) := by
  have hrun := Text.run?_append name.all name.ne_nil (r := ':' :: t)
    (Text.stops_cons.mpr (by decide))
  simp [readName?, hrun]

theorem exists_of_readName? {u : Text} (h : readName? t = some (u, r)) :
    ∃ name : Run isWord, name.text = u ∧ t = name.text ++ ':' :: r := by
  obtain ⟨⟨u', r'⟩, hrun, h⟩ := Option.bind_eq_some_iff.mp h
  split at h
  · next heq =>
    cases heq
    cases h
    obtain ⟨rfl, hne, hall⟩ := Text.eq_append_of_run?_eq_some hrun
    exact ⟨⟨u, hne, hall⟩, rfl, rfl⟩
  · cases h

theorem indented?_append (indent : Run isBlank) (h : Stops isBlank t) :
    indented? (indent.text ++ t) = some t := by
  simp [indented?, Text.run?_append indent.all indent.ne_nil h]

theorem exists_of_indented? (h : indented? t = some r) :
    ∃ indent : Run isBlank, t = indent.text ++ r := by
  obtain ⟨⟨u, r'⟩, hrun, rfl⟩ := Option.map_eq_some_iff.mp h
  obtain ⟨ht, hne, hall⟩ := Text.eq_append_of_run?_eq_some hrun
  exact ⟨⟨u, hne, hall⟩, ht⟩

theorem stripStart_append {u : Text} (hu : ∀ c ∈ u, isBlank c = true) (ht : Stops isBlank t) :
    stripStart (u ++ t) = t :=
  Text.dropWhile_append_stops hu ht

theorem exists_gap_of_stripStart (t : Text) : ∃ gap : Gap, t = gap.text ++ stripStart t :=
  ⟨⟨t.takeWhile isBlank, List.all_eq_true.mp List.all_takeWhile⟩,
    List.takeWhile_append_dropWhile.symm⟩

theorem stopsBlank_word_append (word : Run isWord) (t : Text) : Stops isBlank (word.text ++ t) := by
  obtain ⟨c, u, hu⟩ := List.exists_cons_of_ne_nil word.ne_nil
  rw [hu, List.cons_append, Text.stops_cons]
  exact Text.isBlank_eq_false_of_isWord (word.all c (by simp [hu]))

end Read

/-! ## Forms and layouts -/

namespace Layout

/-- A line is read by its form, wherever the layout cuts it. -/
theorem read?_text (l : Layout) : l.form.read? l.text = some l.records := by
  cases l with
  | blank gap =>
    have hall : gap.text.all isBlank = true := List.all_eq_true.mpr gap.all_blank
    simp [form, text, records, read?, hall]
  | comment remark =>
    have hstart : stripStart remark.text = ';' :: remark.rest.text :=
      stripStart_append remark.gap.all_blank (Text.stops_cons.mpr (by decide))
    have hline : isOneLine remark.rest.text = true := by
      simpa [isOneLine] using remark.rest.not_mem
    simp [form, text, records, read?, hstart, hline]
  | definition name before after literal remark =>
    have hrun := Text.run?_append name.all name.ne_nil (r := before.text ++
        '=' :: (after.text ++ literal.text ++ noteText remark))
      (Text.stopsWord_append_of_blank before.all_blank (Text.stops_cons.mpr (by decide)))
    have hstart := stripStart_append (t := '=' :: (after.text ++ literal.text ++ noteText remark))
      before.all_blank (Text.stops_cons.mpr (by decide))
    obtain ⟨hbefore, hfrom⟩ := cut_noteText
      (List.not_mem_append (after.not_mem (by decide)) literal.not_mem) remark
    simp only [form, text, records, read?, hrun, hstart, hbefore, hfrom, readNote?_noteText,
      Text.strip_append_of_blank after.all_blank, Option.bind_eq_bind, Option.bind_some,
      Option.pure_def]
  | directive indent keyword tail =>
    simp [form, text, records, read?, readDirective?_text,
      indented?_append indent (Text.stops_cons (c := '.').mpr (by decide))]
  | label name remark =>
    have hremark : readNote? (stripStart (remark.elim [] Remark.text)) =
        some (remark.bind fun r => note r.rest.text) := by
      cases remark with
      | none => rfl
      | some r =>
        have hstart : stripStart r.text = ';' :: r.rest.text :=
          stripStart_append r.gap.all_blank (Text.stops_cons.mpr (by decide))
        rw [Option.elim_some, hstart, readNote?_cons r.rest.not_mem]
        rfl
    simp [form, text, records, read?, readName?_append, hremark]
  | labelledInstruction name indent mnemonic tail =>
    simp [form, text, records, read?, readInstruction?_text, readName?_append,
      indented?_append indent (stopsBlank_word_append mnemonic tail.text)]
  | labelledDirective name indent keyword tail =>
    simp [form, text, records, read?, readDirective?_text, readName?_append,
      indented?_append indent (Text.stops_cons (c := '.').mpr (by decide))]
  | instruction indent mnemonic tail =>
    simp [form, text, records, read?, readInstruction?_text,
      indented?_append indent (stopsBlank_word_append mnemonic tail.text)]

end Layout

/-- Whatever a form reads has a layout of that form.  The blanks at the end of the line have to be
dropped first, since behind a label without a comment there are none. -/
theorem exists_layout_of_read? {form : Form} {t : Text} {rs : List Record}
    (hend : Stops isBlank t.reverse) (h : form.read? t = some rs) :
    ∃ l : Layout, l.form = form ∧ l.text = t ∧ l.records = rs := by
  cases form with
  | blank =>
    simp only [read?] at h
    split at h
    · next hall =>
      cases h
      exact ⟨.blank ⟨t, List.all_eq_true.mp hall⟩, rfl, rfl, rfl⟩
    · cases h
  | comment =>
    simp only [read?] at h
    obtain ⟨gap, hgap⟩ := exists_gap_of_stripStart t
    split at h
    · next r hstart =>
      split at h
      · next hline =>
        cases h
        have hfeed : '\n' ∉ r := by simpa [isOneLine] using hline
        rw [hstart] at hgap
        exact ⟨.comment ⟨gap, ⟨r, hfeed⟩⟩, rfl, hgap.symm, rfl⟩
      · cases h
    · cases h
  | definition =>
    obtain ⟨⟨name, r⟩, hrun, hread⟩ := Option.bind_eq_some_iff.mp h
    obtain ⟨gap, hgap⟩ := exists_gap_of_stripStart r
    simp only at hread
    split at hread
    · next u hstart =>
      obtain ⟨remark, hremark, hrs⟩ := Option.bind_eq_some_iff.mp hread
      cases hrs
      obtain ⟨ht, hne, hall⟩ := Text.eq_append_of_run?_eq_some hrun
      obtain ⟨rest, hrest, rfl⟩ := exists_of_readNote? hremark
      refine ⟨.definition ⟨name, hne, hall⟩ gap .none ⟨beforeNote u, not_mem_beforeNote u⟩ rest,
        rfl, ?_, rfl⟩
      rw [ht, hgap, hstart]
      simp only [Layout.text, Literal.Gap.text_none, List.nil_append, hrest,
        beforeNote_append_fromNote]
    · cases hread
  | directive =>
    obtain ⟨r, hindent, h⟩ := Option.bind_eq_some_iff.mp h
    obtain ⟨d, hd, h⟩ := Option.bind_eq_some_iff.mp h
    cases h
    obtain ⟨indent, rfl⟩ := exists_of_indented? hindent
    obtain ⟨keyword, tail, rfl, rfl⟩ := exists_of_readDirective? hd
    exact ⟨.directive indent keyword tail, rfl, rfl, rfl⟩
  | label =>
    obtain ⟨⟨u, r⟩, hname, h⟩ := Option.bind_eq_some_iff.mp h
    obtain ⟨remark, hremark, h⟩ := Option.bind_eq_some_iff.mp h
    cases h
    obtain ⟨name, rfl, rfl⟩ := exists_of_readName? hname
    obtain ⟨gap, hgap⟩ := exists_gap_of_stripStart r
    obtain ⟨rest, hrest, rfl⟩ := exists_of_readNote? hremark
    rw [← hrest] at hgap
    subst hgap
    cases rest with
    | some rest => exact ⟨.label name (some ⟨gap, rest⟩), rfl, rfl, rfl⟩
    | none =>
      have hnil : gap.text = [] := by
        have hstrip := Text.stripEnd_eq_self hend
        rw [noteText, List.append_nil, Text.stripEnd_append_cons (by decide),
          Text.stripEnd_eq_nil_iff.mpr gap.all_blank] at hstrip
        simpa using hstrip.symm
      exact ⟨.label name none, rfl, by simp [Layout.text, noteText, hnil], rfl⟩
  | labelledInstruction =>
    obtain ⟨⟨u, r⟩, hname, h⟩ := Option.bind_eq_some_iff.mp h
    obtain ⟨r', hindent, h⟩ := Option.bind_eq_some_iff.mp h
    obtain ⟨i, hi, h⟩ := Option.bind_eq_some_iff.mp h
    cases h
    obtain ⟨name, rfl, rfl⟩ := exists_of_readName? hname
    obtain ⟨indent, rfl⟩ := exists_of_indented? hindent
    obtain ⟨mnemonic, tail, rfl, rfl⟩ := exists_of_readInstruction? hi
    exact ⟨.labelledInstruction name indent mnemonic tail, rfl, rfl, rfl⟩
  | labelledDirective =>
    obtain ⟨⟨u, r⟩, hname, h⟩ := Option.bind_eq_some_iff.mp h
    obtain ⟨r', hindent, h⟩ := Option.bind_eq_some_iff.mp h
    obtain ⟨d, hd, h⟩ := Option.bind_eq_some_iff.mp h
    cases h
    obtain ⟨name, rfl, rfl⟩ := exists_of_readName? hname
    obtain ⟨indent, rfl⟩ := exists_of_indented? hindent
    obtain ⟨keyword, tail, rfl, rfl⟩ := exists_of_readDirective? hd
    exact ⟨.labelledDirective name indent keyword tail, rfl, rfl, rfl⟩
  | instruction =>
    obtain ⟨r, hindent, h⟩ := Option.bind_eq_some_iff.mp h
    obtain ⟨i, hi, h⟩ := Option.bind_eq_some_iff.mp h
    cases h
    obtain ⟨indent, rfl⟩ := exists_of_indented? hindent
    obtain ⟨mnemonic, tail, rfl, rfl⟩ := exists_of_readInstruction? hi
    exact ⟨.instruction indent mnemonic tail, rfl, rfl, rfl⟩

/-- A form reads a line exactly if the line has a layout of that form, and the records are those of
any such layout. -/
theorem read?_eq_some_iff {form : Form} {t : Text} {rs : List Record}
    (hend : Stops isBlank t.reverse) :
    form.read? t = some rs ↔ ∃ l : Layout, l.form = form ∧ l.text = t ∧ l.records = rs := by
  constructor
  · exact exists_layout_of_read? hend
  · rintro ⟨l, rfl, rfl, rfl⟩
    exact l.read?_text

/-! ## How lines open -/

/-- What comes first behind an indent or a label. -/
inductive Opening where
  | nothing
  | remark
  | directive
  | other

namespace Opening

def ofText (t : Text) : Opening :=
  match stripStart t with
  | [] => .nothing
  | ';' :: _ => .remark
  | '.' :: _ => .directive
  | _ => .other

/-- The form of a line that does not start with a word. -/
def indented : Opening → Form
  | .nothing => .blank
  | .remark => .comment
  | .directive => .directive
  | .other => .instruction

/-- The form of a line that starts with a label. -/
def labelled : Opening → Form
  | .nothing | .remark => .label
  | .directive => .labelledDirective
  | .other => .labelledInstruction

theorem ofText_of_blank {t : Text} (h : ∀ c ∈ t, isBlank c = true) : ofText t = .nothing := by
  have hnil : stripStart t = [] := List.dropWhile_eq_nil_iff.mpr h
  simp only [ofText, hnil]

theorem ofText_remark (gap : Gap) (t : Text) : ofText (gap.text ++ ';' :: t) = .remark := by
  simp only [ofText, stripStart_append gap.all_blank (Text.stops_cons (c := ';').mpr (by decide))]

theorem ofText_directive (indent : Run isBlank) (t : Text) :
    ofText (indent.text ++ '.' :: t) = .directive := by
  simp only [ofText, stripStart_append indent.all (Text.stops_cons (c := '.').mpr (by decide))]

theorem ofText_word (indent : Run isBlank) (word : Run isWord) (t : Text) :
    ofText (indent.text ++ (word.text ++ t)) = .other := by
  rw [ofText, stripStart_append indent.all (stopsBlank_word_append word t)]
  obtain ⟨c, u, hu⟩ := List.exists_cons_of_ne_nil word.ne_nil
  have hc : isWord c = true := word.all c (by simp [hu])
  rw [hu, List.cons_append]
  split
  · next h => cases h
  · next h =>
    cases h
    exact absurd hc (by decide)
  · next h =>
    cases h
    exact absurd hc (by decide)
  · rfl

end Opening

/-- The only form that a line can have, told by how it opens. -/
def ofOpening (t : Text) : Form :=
  match run? isWord t with
  | some (_, ':' :: r) => (Opening.ofText r).labelled
  | some _ => .definition
  | none => (Opening.ofText t).indented

theorem ofOpening_label (name : Run isWord) (t : Text) :
    ofOpening (name.text ++ ':' :: t) = (Opening.ofText t).labelled := by
  simp only [ofOpening,
    Text.run?_append name.all name.ne_nil (Text.stops_cons (c := ':').mpr (by decide))]

theorem ofOpening_indented {t : Text} (h : Stops isWord t) :
    ofOpening t = (Opening.ofText t).indented := by
  simp only [ofOpening, run?, h.takeWhile_eq_nil]

theorem ofOpening_definition (name : Run isWord) (gap : Gap) (t : Text) :
    ofOpening (name.text ++ (gap.text ++ '=' :: t)) = .definition := by
  rw [ofOpening, Text.run?_append name.all name.ne_nil
    (Text.stopsWord_append_of_blank gap.all_blank (Text.stops_cons.mpr (by decide)))]
  split
  · next heq =>
    have hgap := gap.all_blank
    cases htext : gap.text with
    | nil =>
      rw [htext] at heq
      cases heq
    | cons c u =>
      rw [htext] at heq hgap
      cases heq
      exact absurd (hgap ':' List.mem_cons_self) (by decide)
  · rfl
  · next h => cases h

theorem Layout.form_eq_ofOpening (l : Layout) : l.form = ofOpening l.text := by
  cases l with
  | blank gap =>
    have hstop : Stops isWord gap.text := by
      have happend := Text.stopsWord_append_of_blank gap.all_blank Text.stops_nil
      rwa [List.append_nil] at happend
    rw [text, ofOpening_indented hstop, Opening.ofText_of_blank gap.all_blank]
    rfl
  | comment remark =>
    have hstop : Stops isWord remark.text :=
      Text.stopsWord_append_of_blank remark.gap.all_blank (Text.stops_cons.mpr (by decide))
    rw [text, ofOpening_indented hstop, Remark.text, Opening.ofText_remark]
    rfl
  | definition name before after literal remark => exact (ofOpening_definition name before _).symm
  | directive indent keyword tail =>
    rw [text, ofOpening_indented (stopsWord_indent_append indent _), Opening.ofText_directive]
    rfl
  | label name remark =>
    rw [text, ofOpening_label]
    cases remark with
    | none => rfl
    | some r =>
      rw [Option.elim_some, Remark.text, Opening.ofText_remark]
      rfl
  | labelledInstruction name indent mnemonic tail =>
    rw [text, ofOpening_label, Opening.ofText_word]
    rfl
  | labelledDirective name indent keyword tail =>
    rw [text, ofOpening_label, Opening.ofText_directive]
    rfl
  | instruction indent mnemonic tail =>
    rw [text, ofOpening_indented (stopsWord_indent_append indent _), Opening.ofText_word]
    rfl

/-! ## One form at most -/

theorem eq_ofOpening_of_read? {form : Form} {t : Text} {rs : List Record}
    (hend : Stops isBlank t.reverse) (h : form.read? t = some rs) : form = ofOpening t := by
  obtain ⟨l, rfl, rfl, -⟩ := exists_layout_of_read? hend h
  exact l.form_eq_ofOpening

theorem mem_all (form : Form) : form ∈ all := by cases form <;> decide

/-- Whatever the order in which forms are tried, the one that the opening tells decides. -/
theorem findSome?_read? {order : List Form} (horder : ∀ form, form ∈ order) {t : Text}
    (hend : Stops isBlank t.reverse) :
    order.findSome? (·.read? t) = (ofOpening t).read? t := by
  cases hfind : order.findSome? (·.read? t) with
  | none => exact (List.findSome?_eq_none_iff.mp hfind _ (horder _)).symm
  | some rs =>
    obtain ⟨form, -, hform⟩ := List.exists_of_findSome?_eq_some hfind
    rw [← eq_ofOpening_of_read? hend hform, hform]

theorem classify?_eq_read? (t : Text) :
    classify? t = (ofOpening (stripEnd t)).read? (stripEnd t) :=
  findSome?_read? mem_all (Text.stops_reverse_stripEnd t)

theorem Layout.classify?_eq {t : Text} (l : Layout) (h : l.text = stripEnd t) :
    classify? t = some l.records := by
  rw [classify?_eq_read?, ← h, ← l.form_eq_ofOpening, l.read?_text]

theorem exists_layout_of_classify? {t : Text} {rs : List Record} (h : classify? t = some rs) :
    ∃ l : Layout, l.text = stripEnd t ∧ l.records = rs := by
  rw [classify?_eq_read?] at h
  obtain ⟨l, -, hl, hrs⟩ := exists_layout_of_read? (Text.stops_reverse_stripEnd t) h
  exact ⟨l, hl, hrs⟩

/-- The forms exclude each other.  After the blanks at its end have been dropped, a line has layouts
of one form at most, and they all give the same records.  The records of a line are those of its
layouts, in whatever order the forms are tried, and a line is unknown exactly if it has no
layout. -/
theorem forms_exclude_each_other (t : Text) :
    (∀ l l' : Layout, l.text = stripEnd t → l'.text = stripEnd t →
      l.form = l'.form ∧ l.records = l'.records) ∧
    (∀ form rs, form.read? (stripEnd t) = some rs ↔
      ∃ l : Layout, l.form = form ∧ l.text = stripEnd t ∧ l.records = rs) ∧
    (∀ order : List Form, order.Perm all →
      order.findSome? (·.read? (stripEnd t)) = classify? t) ∧
    (∀ rs, classify? t = some rs ↔ ∃ l : Layout, l.text = stripEnd t ∧ l.records = rs) ∧
    (classify? t = none ↔ ∀ l : Layout, l.text ≠ stripEnd t) := by
  have hend := Text.stops_reverse_stripEnd t
  refine ⟨?_, fun form rs => read?_eq_some_iff hend, ?_,
    fun rs => ⟨exists_layout_of_classify?, ?_⟩, ?_⟩
  · intro l l' hl hl'
    rw [l.form_eq_ofOpening, l'.form_eq_ofOpening, hl, hl']
    exact ⟨rfl, Option.some.inj ((l.classify?_eq hl).symm.trans (l'.classify?_eq hl'))⟩
  · intro order horder
    rw [classify?_eq_read?]
    exact findSome?_read? (fun form => horder.mem_iff.mpr (mem_all form)) hend
  · rintro ⟨l, hl, rfl⟩
    exact l.classify?_eq hl
  · constructor
    · intro hnone l hl
      rw [l.classify?_eq hl] at hnone
      cases hnone
    · intro hno
      cases h : classify? t with
      | none => rfl
      | some rs =>
        obtain ⟨l, hl, -⟩ := exists_layout_of_classify? h
        exact absurd hl (hno l)

end AsmDispatch.Form
