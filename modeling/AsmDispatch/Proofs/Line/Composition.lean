import AsmDispatch.Proofs.Line.Layout
import AsmDispatch.Proofs.Text.Within

/-!
# Lines put together

A comment behind a line and a label in front of one change nothing else.  A comment becomes the
comment of the last record, or the whole line if there was nothing in front of it.  A label becomes
a record of its own, and takes the comment of a line that has nothing else.

## Main statements

* `Form.read?_append_remark`: a form reads a line with a comment behind it as it reads the line.
* `Form.comment_changes_last_record`, `Form.label_stands_in_front`: the two laws for every line.
-/

namespace AsmDispatch

/-- The record with another comment; a comment line has none. -/
def Record.withRemark (remark : Option Text) : Record → Record
  | .comment t => .comment t
  | .definition d => .definition { d with comment := remark }
  | .directive d => .directive { d with comment := remark }
  | .label l => .label { l with comment := remark }
  | .instruction i => .instruction { i with comment := remark }

namespace Form

open Text (isBlank isWord run? strip stripStart stripEnd isOneLine Stops)
open Literal (Gap Run)

/-! ## Forms by their parts -/

section Parts

variable (t : Text)

/-- What follows the name of a definition. -/
def readConstant? (name t : Text) : Option (List Record) :=
  match stripStart t with
  | '=' :: u => do
    let remark ← readNote? (fromNote u)
    return [.definition { name, literal := strip (beforeNote u), comment := remark }]
  | _ => none

theorem read?_definition :
    read? .definition t = (run? isWord t).bind fun q => readConstant? q.1 q.2 := rfl

theorem read?_directive :
    read? .directive t = ((indented? t).bind readDirective?).map ([·]) := by
  simp only [read?, Option.bind_eq_bind, Option.pure_def, Option.map_eq_bind, Option.bind_assoc,
    Function.comp_def]

theorem read?_instruction :
    read? .instruction t = ((indented? t).bind readInstruction?).map ([·]) := by
  simp only [read?, Option.bind_eq_bind, Option.pure_def, Option.map_eq_bind, Option.bind_assoc,
    Function.comp_def]

theorem read?_label :
    read? .label t = (readName? t).bind fun q => (readNote? (stripStart q.2)).map fun remark =>
      [.label { name := q.1, comment := remark }] := by
  simp only [read?, Option.bind_eq_bind, Option.pure_def, Option.map_eq_bind, Function.comp_def]

/-- A directive or an instruction behind a label is read as without the label. -/
theorem read?_labelledDirective :
    read? .labelledDirective t = (readName? t).bind fun q =>
      (read? .directive q.2).map (.label { name := q.1 } :: ·) := by
  simp only [read?, Option.bind_eq_bind, Option.pure_def, Option.map_eq_bind, Option.bind_assoc,
    Function.comp_def, Option.bind_some]

theorem read?_labelledInstruction :
    read? .labelledInstruction t = (readName? t).bind fun q =>
      (read? .instruction q.2).map (.label { name := q.1 } :: ·) := by
  simp only [read?, Option.bind_eq_bind, Option.pure_def, Option.map_eq_bind, Option.bind_assoc,
    Function.comp_def, Option.bind_some]

end Parts

/-! ## Parts that do not start as they should -/

section Mark

variable {t : Text}

theorem readConstant?_eq_none {name : Text} (h : (stripStart t).head? ≠ some '=') :
    readConstant? name t = none := by
  unfold readConstant?
  split
  · next heq =>
    rw [heq] at h
    exact absurd rfl h
  · rfl

theorem read?_comment_eq_none (h : (stripStart t).head? ≠ some ';') : read? .comment t = none := by
  simp only [read?]
  split
  · next heq =>
    rw [heq] at h
    exact absurd rfl h
  · rfl

theorem readNote?_eq_none {c : Char} (hc : c ≠ ';') (u : Text) : readNote? (c :: u) = none := by
  unfold readNote?
  split
  · next heq =>
    cases heq
    exact absurd rfl hc
  · next heq => cases heq
  · rfl

theorem readDirective?_eq_none (h : t.head? ≠ some '.') : readDirective? t = none := by
  unfold readDirective?
  split
  · exact absurd rfl h
  · rfl

theorem readName?_eq_none {q : Text × Text} (hrun : run? isWord t = some q)
    (h : q.2.head? ≠ some ':') : readName? t = none := by
  simp only [readName?, hrun, Option.bind_eq_bind, Option.bind_some]
  split
  · exact absurd rfl h
  · rfl

end Mark

/-! ## Comments behind the parts of a line -/

/-- The records with another comment for the last one. -/
def remarkLast (remark : Option Text) : List Record → List Record
  | [] => []
  | [r] => [r.withRemark remark]
  | r :: rs => r :: remarkLast remark rs

theorem remarkLast_append (remark : Option Text) (front : List Record) (last : Record) :
    remarkLast remark (front ++ [last]) = front ++ [last.withRemark remark] := by
  induction front with
  | nil => rfl
  | cons r rs ih =>
    have hne : rs ++ [last] ≠ [] := by simp
    rw [List.cons_append, remarkLast, ih, List.cons_append]
    exact hne

section Append

variable {x v : Text}

/-- A run ends in the same place, whatever follows that does not make it longer. -/
theorem run?_append_of_stops {p : Char → Bool} (hv : Stops p v ∨ x.dropWhile p ≠ []) :
    run? p (x ++ v) = (run? p x).map fun q => (q.1, q.2 ++ v) := by
  have hstop : Stops p (x.dropWhile p ++ v) := by
    cases hx : x.dropWhile p with
    | nil => exact hv.resolve_right fun h => h hx
    | cons c u =>
      have hc := Text.stops_dropWhile p x
      rw [hx] at hc
      exact hc
  have hall : ∀ c ∈ x.takeWhile p, p c = true := List.all_eq_true.mp List.all_takeWhile
  have hsplit : x ++ v = x.takeWhile p ++ (x.dropWhile p ++ v) := by
    rw [← List.append_assoc, List.takeWhile_append_dropWhile]
  unfold run?
  rw [hsplit, Text.takeWhile_append_stops hall hstop, Text.dropWhile_append_stops hall hstop]
  cases x.takeWhile p <;> rfl

/-- What is read behind a run changes as the text behind the run makes it change. -/
theorem bind_run?_append {α : Type} {p : Char → Bool} {read : Text × Text → Option α} {f : α → α}
    (hv : Stops p v ∨ x.dropWhile p ≠ [])
    (hread : ∀ w y, x = w ++ y → read (w, y ++ v) = (read (w, y)).map f) :
    (run? p (x ++ v)).bind read = ((run? p x).bind read).map f := by
  rw [run?_append_of_stops hv]
  cases hrun : run? p x with
  | none => rfl
  | some q => exact hread q.1 q.2 (Text.eq_append_of_run?_eq_some hrun).1

theorem stripStart_append_of_ne_nil (hx : stripStart x ≠ []) (v : Text) :
    stripStart (x ++ v) = stripStart x ++ v := by
  rw [stripStart, List.dropWhile_append, if_neg (by simpa [stripStart] using hx)]
  rfl

theorem not_mem_of_append {c : Char} {w y : Text} (hx : c ∉ x) (h : x = w ++ y) : c ∉ y := by
  rw [h] at hx
  exact fun hmem => hx (List.mem_append_right w hmem)

theorem ne_of_stripStart {c : Char} {u : Text} (hx : ';' ∉ x) (h : stripStart x = c :: u) :
    c ≠ ';' ∧ ';' ∉ u := by
  have hmem : ';' ∉ c :: u := by
    rw [← h]
    exact fun hmem => hx (Text.stripStart_subset x hmem)
  rw [List.mem_cons, not_or] at hmem
  exact ⟨Ne.symm hmem.1, hmem.2⟩

/-- Behind blanks a comment starts as it does behind nothing. -/
theorem stripStart_append_remark (hx : stripStart x = []) (r : Remark) :
    stripStart (x ++ r.text) = ';' :: r.rest.text := by
  have hblank : ∀ c ∈ x ++ r.gap.text, isBlank c = true :=
    List.forall_mem_append.mpr ⟨List.dropWhile_eq_nil_iff.mp hx, r.gap.all_blank⟩
  rw [Remark.text, ← List.append_assoc]
  exact stripStart_append hblank (Text.stops_cons.mpr (by decide))

theorem cut_append_remark (hx : ';' ∉ x) (r : Remark) :
    beforeNote (x ++ r.text) = x ++ r.gap.text ∧ fromNote (x ++ r.text) = ';' :: r.rest.text := by
  rw [Remark.text, ← List.append_assoc]
  exact cut_noteText (List.not_mem_append hx (r.gap.not_mem (by decide))) (some r.rest)

theorem Remark.stopsWord (r : Remark) : Stops isWord r.text :=
  Text.stopsWord_append_of_blank r.gap.all_blank (Text.stops_cons.mpr (by decide))

/-- An operand ends where the blanks in front of the comment start. -/
theorem readOperand?_append_remark (hx : ';' ∉ x) (r : Remark) :
    readOperand? (x ++ r.text) = (readOperand? x).map fun p => (p.1, note r.rest.text) := by
  obtain ⟨hbefore, hfrom⟩ := cut_append_remark hx r
  unfold readOperand?
  rw [hbefore, hfrom, beforeNote_of_not_mem hx, fromNote_of_not_mem hx,
    readNote?_cons r.rest.not_mem]
  simp only [readNote?, Option.bind_eq_bind, Option.bind_some, Option.pure_def]
  cases x with
  | nil =>
    have hstrip : strip r.gap.text = [] := Text.strip_eq_nil_iff.mpr r.gap.all_blank
    have hblank := r.gap.all_blank
    rw [List.nil_append]
    cases hgap : r.gap.text with
    | nil => rfl
    | cons c u =>
      rw [hgap] at hstrip hblank
      simp [hblank c List.mem_cons_self, hstrip]
  | cons c u =>
    have hstrip : strip (c :: (u ++ r.gap.text)) = strip (c :: u) :=
      Text.strip_append_of_blank_right (t := c :: u) r.gap.all_blank
    cases hc : isBlank c with
    | true => simp [hc, hstrip]
    | false => simp [hc]

theorem readInstruction?_append_remark (hx : ';' ∉ x) (r : Remark) :
    readInstruction? (x ++ r.text) =
      (readInstruction? x).map (·.withRemark (note r.rest.text)) := by
  refine bind_run?_append (.inl r.stopsWord) fun w y hsplit => ?_
  simp only [readOperand?_append_remark (not_mem_of_append hx hsplit)]
  cases readOperand? y <;> rfl

/-- A comment starts with a blank or the semicolon. -/
theorem Remark.head?_ne (r : Remark) {c : Char} (hblank : isBlank c = false) (hc : c ≠ ';') :
    r.text.head? ≠ some c := by
  unfold Remark.text
  cases hgap : r.gap.text with
  | nil => simpa using hc.symm
  | cons d u =>
    intro hhead
    obtain rfl : d = c := by simpa using hhead
    have hd := r.gap.all_blank d (by simp [hgap])
    rw [hblank] at hd
    cases hd

theorem readDirective?_append_remark (hx : ';' ∉ x) (r : Remark) :
    readDirective? (x ++ r.text) = (readDirective? x).map (·.withRemark (note r.rest.text)) := by
  cases x with
  | nil =>
    rw [List.nil_append, readDirective?_eq_none (r.head?_ne (by decide) (by decide))]
    rfl
  | cons c u =>
    by_cases hc : c = '.'
    · subst hc
      have hu : ';' ∉ u := fun hmem => hx (List.mem_cons_of_mem '.' hmem)
      refine bind_run?_append (.inl r.stopsWord) fun w y hsplit => ?_
      simp only [readOperand?_append_remark (not_mem_of_append hu hsplit)]
      cases readOperand? y <;> rfl
    · have hhead : (c :: u).head? ≠ some '.' := by simpa using hc
      have hhead' : (c :: u ++ r.text).head? ≠ some '.' := by simpa using hc
      rw [readDirective?_eq_none hhead, readDirective?_eq_none hhead']
      rfl

theorem bind_indented?_eq_none {α : Type} {read : Text → Option α}
    (h : read (stripStart x) = none) : (indented? x).bind read = none := by
  unfold indented? run?
  cases x.takeWhile isBlank with
  | nil => rfl
  | cons c u => exact h

/-- The indent is the same with a comment behind the line, unless there is nothing else; and behind
blanks alone there is nothing to read. -/
theorem bind_indented?_append_remark {read : Text → Option Record} (hnil : read [] = none)
    (hnote : ∀ u, read (';' :: u) = none) {r : Remark}
    (hread : ∀ y, ';' ∉ y → read (y ++ r.text) = (read y).map (·.withRemark (note r.rest.text)))
    (hx : ';' ∉ x) : (indented? (x ++ r.text)).bind read =
      ((indented? x).bind read).map (·.withRemark (note r.rest.text)) := by
  by_cases hblank : stripStart x = []
  · have hbefore : (indented? x).bind read = none :=
      bind_indented?_eq_none (by rw [hblank, hnil])
    have hbehind : (indented? (x ++ r.text)).bind read = none :=
      bind_indented?_eq_none (by rw [stripStart_append_remark hblank, hnote])
    rw [hbefore, hbehind]
    rfl
  · rw [indented?, indented?, Option.bind_map, Option.bind_map]
    exact bind_run?_append (.inr hblank) fun _ y hsplit => hread y (not_mem_of_append hx hsplit)

/-- Where a line is read by what stands behind its indent, a comment goes to the record there. -/
theorem bind_readDirective?_append_remark (hx : ';' ∉ x) (r : Remark) :
    (indented? (x ++ r.text)).bind readDirective? =
      ((indented? x).bind readDirective?).map (·.withRemark (note r.rest.text)) :=
  bind_indented?_append_remark rfl (fun _ => readDirective?_eq_none (by simp))
    (fun _ hy => readDirective?_append_remark hy r) hx

theorem bind_readInstruction?_append_remark (hx : ';' ∉ x) (r : Remark) :
    (indented? (x ++ r.text)).bind readInstruction? =
      ((indented? x).bind readInstruction?).map (·.withRemark (note r.rest.text)) := by
  have hnote (u : Text) : readInstruction? (';' :: u) = none := by
    have hrun : run? isWord (';' :: u) = none := by
      rw [run?, List.takeWhile_cons_of_neg (by decide)]
    rw [readInstruction?, hrun]
    rfl
  exact bind_indented?_append_remark rfl hnote (fun _ hy => readInstruction?_append_remark hy r) hx

theorem readName?_append_remark (r : Remark) :
    readName? (x ++ r.text) = (readName? x).map fun q => (q.1, q.2 ++ r.text) := by
  cases hrun : run? isWord x with
  | none =>
    have hbehind : run? isWord (x ++ r.text) = none := by
      rw [run?_append_of_stops (.inl r.stopsWord), hrun]
      rfl
    simp [readName?, hrun, hbehind]
  | some q =>
    have hbehind : run? isWord (x ++ r.text) = some (q.1, q.2 ++ r.text) := by
      rw [run?_append_of_stops (.inl r.stopsWord), hrun]
      rfl
    by_cases hcolon : q.2.head? = some ':'
    · obtain ⟨name, t⟩ := q
      obtain ⟨u, rfl⟩ : ∃ u, t = ':' :: u := List.head?_eq_some_iff.mp hcolon
      simp [readName?, hrun, hbehind]
    · have hcolon' : (q.2 ++ r.text).head? ≠ some ':' := by
        cases hq : q.2 with
        | nil => exact r.head?_ne (by decide) (by decide)
        | cons c u =>
          rw [hq] at hcolon
          exact hcolon
      rw [readName?_eq_none hrun hcolon, readName?_eq_none hbehind hcolon']
      rfl

/-- A comment behind a line with a label stands behind what follows the label. -/
theorem bind_readName?_append_remark {read : Text × Text → Option (List Record)} {r : Remark}
    (hread : ∀ name y, ';' ∉ y → read (name, y ++ r.text) =
      (read (name, y)).map (remarkLast (note r.rest.text)))
    (hx : ';' ∉ x) : (readName? (x ++ r.text)).bind read =
      ((readName? x).bind read).map (remarkLast (note r.rest.text)) := by
  rw [readName?_append_remark]
  cases hname : readName? x with
  | none => rfl
  | some q =>
    obtain ⟨name, -, rfl⟩ := exists_of_readName? (u := q.1) (r := q.2) hname
    refine hread q.1 q.2 fun hmem => hx ?_
    exact List.mem_append_right _ (List.mem_cons_of_mem _ hmem)

/-- A constant ends where the blanks in front of the comment start. -/
theorem readConstant?_append_remark (hx : ';' ∉ x) (name : Text) (r : Remark) :
    readConstant? name (x ++ r.text) =
      (readConstant? name x).map (remarkLast (note r.rest.text)) := by
  cases hstart : stripStart x with
  | nil =>
    rw [readConstant?_eq_none (by simp [stripStart_append_remark hstart]),
      readConstant?_eq_none (by simp [hstart])]
    rfl
  | cons c u =>
    have hbehind : stripStart (x ++ r.text) = c :: (u ++ r.text) := by
      rw [stripStart_append_of_ne_nil (by simp [hstart]), hstart, List.cons_append]
    by_cases hc : c = '='
    · subst hc
      obtain ⟨-, hu⟩ := ne_of_stripStart hx hstart
      obtain ⟨hbefore, hfrom⟩ := cut_append_remark hu r
      unfold readConstant?
      rw [hbehind, hstart]
      simp only [hbefore, hfrom, readNote?_cons r.rest.not_mem, fromNote_of_not_mem hu,
        beforeNote_of_not_mem hu, Text.strip_append_of_blank_right r.gap.all_blank]
      rfl
    · rw [readConstant?_eq_none (by simpa [hbehind] using hc),
        readConstant?_eq_none (by simpa [hstart] using hc)]
      rfl

/-- Behind a label stands nothing but a comment. -/
theorem readNote?_append_remark (hx : ';' ∉ x) (r : Remark) :
    readNote? (stripStart (x ++ r.text)) =
      (readNote? (stripStart x)).map fun _ => note r.rest.text := by
  cases hstart : stripStart x with
  | nil =>
    rw [stripStart_append_remark hstart, readNote?_cons r.rest.not_mem]
    rfl
  | cons c u =>
    obtain ⟨hc, -⟩ := ne_of_stripStart hx hstart
    rw [stripStart_append_of_ne_nil (by simp [hstart]), hstart, List.cons_append,
      readNote?_eq_none hc, readNote?_eq_none hc]
    rfl

end Append

/-! ## Comments behind lines -/

/-- Any form reads a line with a comment behind it as it reads the line, and gives the comment to
the last record. -/
theorem read?_append_remark (form : Form) {x : Text} (hx : ';' ∉ x) (hsolid : stripStart x ≠ [])
    (r : Remark) : form.read? (x ++ r.text) =
      (form.read? x).map (remarkLast (note r.rest.text)) := by
  cases form with
  | blank =>
    have hbefore : x.all isBlank = false := by
      rw [Bool.eq_false_iff]
      exact fun hall => hsolid (List.dropWhile_eq_nil_iff.mpr (List.all_eq_true.mp hall))
    have hbehind : (x ++ r.text).all isBlank = false := by rw [List.all_append, hbefore]; rfl
    simp only [read?, hbefore, hbehind]
    rfl
  | comment =>
    obtain ⟨c, u, hstart⟩ := List.exists_cons_of_ne_nil hsolid
    obtain ⟨hc, -⟩ := ne_of_stripStart hx hstart
    rw [read?_comment_eq_none (t := x ++ r.text)
        (by simpa [stripStart_append_of_ne_nil hsolid, hstart] using hc),
      read?_comment_eq_none (t := x) (by simpa [hstart] using hc)]
    rfl
  | definition =>
    rw [read?_definition, read?_definition]
    exact bind_run?_append (.inl r.stopsWord) fun name y hsplit =>
      readConstant?_append_remark (not_mem_of_append hx hsplit) name r
  | directive =>
    rw [read?_directive, read?_directive, bind_readDirective?_append_remark hx, Option.map_map,
      Option.map_map]
    rfl
  | label =>
    rw [read?_label, read?_label]
    refine bind_readName?_append_remark (fun name y hy => ?_) hx
    rw [readNote?_append_remark hy, Option.map_map, Option.map_map]
    rfl
  | labelledInstruction =>
    rw [read?_labelledInstruction, read?_labelledInstruction]
    refine bind_readName?_append_remark (fun name y hy => ?_) hx
    simp only [read?_instruction, bind_readInstruction?_append_remark hy, Option.map_map]
    rfl
  | labelledDirective =>
    rw [read?_labelledDirective, read?_labelledDirective]
    refine bind_readName?_append_remark (fun name y hy => ?_) hx
    simp only [read?_directive, bind_readDirective?_append_remark hy, Option.map_map]
    rfl
  | instruction =>
    rw [read?_instruction, read?_instruction, bind_readInstruction?_append_remark hx,
      Option.map_map, Option.map_map]
    rfl

theorem note_eq (t : Text) : note t = if strip t = [] then none else some (strip t) := by
  unfold note
  split
  · next h => rw [if_pos h]
  · next h => rw [if_neg h]

/-- Behind a line that is not blank, the blanks at its end become those in front of the comment. -/
theorem classify?_append_comment {code c : Text} (hcode : ';' ∉ code) (hc : '\n' ∉ c)
    (hsolid : ∃ d ∈ code, isBlank d = false) :
    classify? (code ++ ';' :: c) = (classify? code).map (remarkLast (note c)) := by
  obtain ⟨gap, hgap, hsplit⟩ := Text.exists_eq_stripEnd_append code
  let r : Remark := ⟨⟨gap, hgap⟩, ⟨stripEnd c, fun hmem => hc (Text.stripEnd_subset c hmem)⟩⟩
  have hstrip : stripEnd (code ++ ';' :: c) = stripEnd code ++ r.text := by
    rw [Text.stripEnd_append_cons (by decide), Remark.text, ← List.append_assoc, ← hsplit]
  have hnote : note r.rest.text = note c := by rw [note_eq, note_eq, Text.strip_stripEnd]
  have hx : ';' ∉ stripEnd code := fun hmem => hcode (Text.stripEnd_subset code hmem)
  have hne : stripStart (stripEnd code) ≠ [] := by
    intro hnil
    have hblank : strip (stripEnd code) = [] := by rw [strip, hnil]; rfl
    rw [Text.strip_stripEnd, Text.strip_eq_nil_iff] at hblank
    obtain ⟨d, hd, hd'⟩ := hsolid
    rw [hblank d hd] at hd'
    cases hd'
  unfold classify?
  rw [hstrip, List.map_findSome?, ← hnote]
  exact congrArg (all.findSome? ·) (funext fun form => read?_append_remark form hx hne r)

theorem classify?_of_blank {code : Text} (h : ∀ d ∈ code, isBlank d = true) :
    classify? code = some [.comment []] :=
  (Layout.blank .none).classify?_eq (Text.stripEnd_eq_nil_iff.mpr h).symm

theorem classify?_comment {code c : Text} (h : ∀ d ∈ code, isBlank d = true) (hc : '\n' ∉ c) :
    classify? (code ++ ';' :: c) = some [.comment (strip c)] := by
  rw [← Text.strip_stripEnd c]
  exact (Layout.comment ⟨⟨code, h⟩, ⟨stripEnd c, fun hmem => hc (Text.stripEnd_subset c hmem)⟩⟩)
    |>.classify?_eq (Text.stripEnd_append_cons (by decide) code c).symm

/-- Only blank lines and comments have a comment for a record, so the last record of any other line
has a place for one. -/
theorem exists_last_of_classify? {code : Text} (hcode : ';' ∉ code)
    (hsolid : ∃ d ∈ code, isBlank d = false) {rs : List Record} (h : classify? code = some rs) :
    ∃ front last, rs = front ++ [last] ∧ ∀ t, last ≠ .comment t := by
  obtain ⟨l, hl, rfl⟩ := exists_layout_of_classify? h
  cases l with
  | blank gap =>
    obtain ⟨v, hv, hsplit⟩ := Text.exists_eq_stripEnd_append code
    obtain ⟨d, hd, hd'⟩ := hsolid
    have hblank : ∀ d ∈ code, isBlank d = true := by
      rw [hsplit, ← hl]
      exact List.forall_mem_append.mpr ⟨gap.all_blank, hv⟩
    rw [hblank d hd] at hd'
    cases hd'
  | comment remark =>
    have hmem : ';' ∈ stripEnd code := by
      rw [← hl]
      exact List.mem_append_right _ List.mem_cons_self
    exact absurd (Text.stripEnd_subset code hmem) hcode
  | definition => exact ⟨[], _, rfl, nofun⟩
  | directive => exact ⟨[], _, rfl, nofun⟩
  | label => exact ⟨[], _, rfl, nofun⟩
  | labelledInstruction => exact ⟨[_], _, rfl, nofun⟩
  | labelledDirective => exact ⟨[_], _, rfl, nofun⟩
  | instruction => exact ⟨[], _, rfl, nofun⟩

/-- A comment does not change what a line means.  With a comment behind it a line is unknown exactly
if it was; a blank line becomes the comment; and any other line keeps its records, but for the
comment of the last one.  There is only one place to cut a line so, which is the first semicolon. -/
theorem comment_changes_last_record (code c : Text) (hcode : ';' ∉ code) (hc : '\n' ∉ c) :
    (classify? (code ++ ';' :: c) = none ↔ classify? code = none) ∧
    ((∀ d ∈ code, isBlank d = true) → classify? (code ++ ';' :: c) = some [.comment (strip c)]) ∧
    ((∃ d ∈ code, isBlank d = false) → ∀ rs, classify? code = some rs →
      ∃ front last, rs = front ++ [last] ∧ (∀ t, last ≠ .comment t) ∧
        classify? (code ++ ';' :: c) = some (front ++
          [last.withRemark (if strip c = [] then none else some (strip c))])) ∧
    (∀ code' c', code' ++ ';' :: c' = code ++ ';' :: c → ';' ∉ code' → code' = code ∧ c' = c) := by
  refine ⟨?_, fun hblank => classify?_comment hblank hc, ?_, ?_⟩
  · by_cases hsolid : ∃ d ∈ code, isBlank d = false
    · rw [classify?_append_comment hcode hc hsolid, Option.map_eq_none_iff]
    · have hblank : ∀ d ∈ code, isBlank d = true := by simpa using hsolid
      rw [classify?_comment hblank hc, classify?_of_blank hblank]
      simp
  · intro hsolid rs hrs
    obtain ⟨front, last, rfl, hlast⟩ := exists_last_of_classify? hcode hsolid hrs
    refine ⟨front, last, rfl, hlast, ?_⟩
    rw [classify?_append_comment hcode hc hsolid, hrs, Option.map_some, remarkLast_append, note_eq]
  · intro code' c' hline hcode'
    have hbefore := congrArg beforeNote hline
    have hfrom := congrArg fromNote hline
    rw [beforeNote_append hcode', beforeNote_append hcode] at hbefore
    rw [fromNote_append hcode', fromNote_append hcode] at hfrom
    exact ⟨hbefore, (List.cons.inj hfrom).2⟩

def markedCode : Text := "loop: lda (tab),Y \t"

/-- A comment with the marks of other forms in it. -/
def markedComment : Text := " next; x = 1: .db "

/-- The comment of a labelled instruction goes to the instruction, and its marks stay in it. -/
theorem comment_changes_last_record_of_marked :
    ';' ∉ markedCode ∧ '\n' ∉ markedComment ∧
      classify? (markedCode ++ ';' :: markedComment) = some [.label { name := "loop" },
        .instruction
          { mnemonic := "LDA", operand := "(tab),Y", comment := "next; x = 1: .db" }] := by
  have hcode : ';' ∉ markedCode := by decide +kernel
  have hc : '\n' ∉ markedComment := by decide +kernel
  have hsolid : ∃ d ∈ markedCode, isBlank d = false := ⟨'l', by decide +kernel, by decide⟩
  have hread : classify? markedCode = some [.label { name := "loop" },
      .instruction { mnemonic := "LDA", operand := "(tab),Y" }] := by decide +kernel
  have hstrip : strip markedComment = "next; x = 1: .db" := by decide +kernel
  obtain ⟨-, -, hkeep, -⟩ := comment_changes_last_record markedCode markedComment hcode hc
  obtain ⟨front, last, hrs, -, hline⟩ := hkeep hsolid _ hread
  rw [hstrip, ← remarkLast_append, ← hrs] at hline
  exact ⟨hcode, hc, hline⟩

/-! ## Labels in front of lines -/

/-- What a label in front of an indented line does to its records.  There is no case for a line that
has a definition, a label or more than one record. -/
inductive Prefixed (name : Text) : Option (List Record) → Option (List Record) → Prop
  | instruction (i : Instruction) :
    Prefixed name (some [.instruction i]) (some [.label { name }, .instruction i])
  | directive (d : Directive) :
    Prefixed name (some [.directive d]) (some [.label { name }, .directive d])
  | comment (t : Text) :
    Prefixed name (some [.comment t])
      (some [.label { name, comment := if t = [] then none else some t }])
  | unknown : Prefixed name none none

/-- A form for labelled lines reads what follows the label as the form without a label does. -/
theorem prefixed_read? (name : Run isWord) (t : Text) :
    Prefixed name.text ((Opening.ofText t).indented.read? t)
      ((Opening.ofText t).labelled.read? (name.text ++ ':' :: t)) := by
  -- by openings; behind a label the first two of them have the same form
  unfold Opening.ofText
  split
  · next hstart =>
    have hall : t.all isBlank = true := List.all_eq_true.mpr (List.dropWhile_eq_nil_iff.mp hstart)
    simp only [Opening.indented, Opening.labelled, read?, hall, if_true, readName?_append,
      Option.bind_eq_bind, Option.bind_some, hstart, readNote?, Option.pure_def]
    exact .comment []
  · next u hstart =>
    simp only [Opening.indented, Opening.labelled, read?, readName?_append, Option.bind_eq_bind,
      Option.bind_some, hstart, readNote?]
    split
    · simp only [Option.bind_some, Option.pure_def, note_eq]
      exact .comment (strip u)
    · exact .unknown
  · simp only [Opening.indented, Opening.labelled, read?_labelledDirective, readName?_append,
      Option.bind_some, read?_directive]
    cases hd : (indented? t).bind readDirective? with
    | none => exact .unknown
    | some d =>
      obtain ⟨u, -, hread⟩ := Option.bind_eq_some_iff.mp hd
      obtain ⟨keyword, tail, -, rfl⟩ := exists_of_readDirective? hread
      exact .directive _
  · simp only [Opening.indented, Opening.labelled, read?_labelledInstruction, readName?_append,
      Option.bind_some, read?_instruction]
    cases hi : (indented? t).bind readInstruction? with
    | none => exact .unknown
    | some i =>
      obtain ⟨u, -, hread⟩ := Option.bind_eq_some_iff.mp hi
      obtain ⟨mnemonic, tail, -, rfl⟩ := exists_of_readInstruction? hread
      exact .instruction _

theorem stopsWord_stripEnd_indent (indent : Run isBlank) (t : Text) :
    Stops isWord (stripEnd (indent.text ++ t)) := by
  obtain ⟨v, -, hsplit⟩ := Text.exists_eq_stripEnd_append (indent.text ++ t)
  have hstop := stopsWord_indent_append indent t
  intro c hc
  rw [hsplit] at hstop
  exact hstop c (List.mem_head?_append_of_mem_head? hc)

/-- A label in front of an indented line stands in front of its record, whatever the line is.  Only
a comment that has the line for itself becomes the comment of the label, and a line that is unknown
stays so. -/
theorem label_stands_in_front (name : Run isWord) (indent : Run isBlank) (rest : Text) :
    Prefixed name.text (classify? (indent.text ++ rest))
      (classify? (name.text ++ ':' :: (indent.text ++ rest))) := by
  rw [classify?_eq_read?, classify?_eq_read?, Text.stripEnd_append_cons (by decide),
    ofOpening_label, ofOpening_indented (stopsWord_stripEnd_indent indent rest)]
  exact prefixed_read? name _

end Form

end AsmDispatch
