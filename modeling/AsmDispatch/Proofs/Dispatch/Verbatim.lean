import AsmDispatch.Proofs.Dispatch.Lines

/-!
# Source text that is taken over as it is

Comments, and the operands of instructions that are not read, stand in the output as they stand in
the source.  Each is on one line of the output, and if the source is a text then no line of the
output holds an end of a line.

## Main statements

* `Line.exists_infix_of_entry`: what a record has verbatim is on a line of its entry.
* `Compilation.exists_line_of_verbatim`: what a record has verbatim is on a line of the output.
* `Session.source_stays_on_its_line`: the lines of the output of a text.
-/

namespace AsmDispatch

open Text (Within isInLine)

namespace Host

variable (h : Host)

theorem infix_comment (t : Text) : t <:+: h.comment t := by
  unfold comment
  split
  · exact List.nil_infix
  · exact (List.suffix_append _ _).isInfix

theorem infix_withComment (t : Text) (remark : Option Text) : t <:+: h.withComment t remark := by
  unfold withComment
  split
  · exact List.infix_refl t
  · exact List.infix_refl t
  · rw [List.append_assoc]
    exact (List.prefix_append _ _).isInfix

theorem infix_withComment_of_mem (t : Text) {u : Text} {remark : Option Text}
    (hu : u ∈ remark) : u <:+: h.withComment t remark := by
  cases hu
  unfold withComment
  split
  · next hnone => cases hnone
  · next hnil =>
    cases hnil
    exact List.nil_infix
  · next c _ hc =>
    cases hc
    exact (h.infix_comment _).trans (List.suffix_append _ _).isInfix

end Host

/-- The operand, if it is taken over without being read. -/
def Instruction.raw? (h : Host) (i : Instruction) : Option Text :=
  match i.family h with
  | .leave | .escape | .generic => some i.operand
  | _ => none

/-- The parts of a record that are taken over as they are: comments, and operands that are not
read. -/
def Record.verbatim (h : Host) : Record → List Text
  | .comment text => [text]
  | .definition d => d.comment.toList
  | .directive d => d.comment.toList
  | .label d => d.comment.toList
  | .instruction i => i.comment.toList ++ (i.raw? h).toList

theorem Instruction.infix_helper (name argument : Text) : argument <:+: helper name argument := by
  exact List.infix_append _ argument _

theorem Instruction.exists_infix_of_raw? {i : Instruction} {h : Host} {symbols : Symbols}
    {location : Option Location} {s : Statement} {u : Text}
    (hs : i.statement h symbols location = .ok s) (hu : i.raw? h = some u) :
    ∃ l ∈ s.lines h, u <:+: l := by
  unfold raw? at hu
  unfold statement at hs
  split at hu
  · next hfamily =>
    cases hu
    simp only [hfamily] at hs
    cases hs
    cases h with
    | javascript =>
      exact ⟨_, List.mem_singleton_self _, (infix_helper _ _).trans (List.infix_append _ _ _)⟩
    | python =>
      exact ⟨_, List.mem_singleton_self _, (infix_helper _ _).trans (List.suffix_append _ _).isInfix⟩
  · next hfamily =>
    cases hu
    simp only [hfamily] at hs
    cases hs
    exact ⟨_, List.mem_singleton_self _, List.infix_refl _⟩
  · next hfamily =>
    cases hu
    simp only [hfamily] at hs
    cases hs
    exact ⟨_, List.mem_singleton_self _, infix_helper _ _⟩
  · cases hu

namespace Statement

variable {s : Statement} {h : Host} {l u : Text} {remark : Option Text}

theorem exists_infix_linesWithComment (hl : l ∈ s.lines h) (remark : Option Text) :
    ∃ l' ∈ s.linesWithComment h remark, l <:+: l' := by
  unfold linesWithComment
  cases hlines : s.lines h with
  | nil => simp [hlines] at hl
  | cons first rest =>
    rw [hlines] at hl
    rcases List.mem_cons.mp hl with rfl | hl
    · exact ⟨_, List.mem_cons_self, h.infix_withComment _ remark⟩
    · exact ⟨l, List.mem_cons_of_mem _ hl, List.infix_refl l⟩

theorem exists_infix_of_mem (hu : u ∈ remark) :
    ∃ l ∈ s.linesWithComment h remark, u <:+: l := by
  unfold linesWithComment
  cases hlines : s.lines h with
  | nil => cases s <;> cases h <;> cases hlines
  | cons first rest => exact ⟨_, List.mem_cons_self, h.infix_withComment_of_mem _ hu⟩

end Statement

theorem Entry.exists_infix_step {s : Statement} {h : Host} {remark : Option Text} {l : Text}
    (hl : l ∈ s.linesWithComment h remark) (slot : Nat) :
    ∃ l' ∈ (step slot s remark).lines h, l <:+: l' := by
  have hcode : h.indent 2 ++ l ∈ (s.linesWithComment h remark).map (h.indent 2 ++ ·) :=
    List.mem_map_of_mem hl
  refine ⟨_, ?_, (List.suffix_append (h.indent 2) l).isInfix⟩
  cases h with
  | javascript => exact List.mem_cons_of_mem _ hcode
  | python =>
    refine List.mem_cons_of_mem _ ?_
    split
    · exact hcode
    · exact List.mem_append_left _ hcode

/-- What a record that makes no constant has verbatim is on a line of its entry. -/
theorem Line.exists_infix_of_entry {m : Line} {h : Host} {symbols : Symbols} {slot : Nat}
    {e : Entry} {u : Text} (hm : m.definition? = none) (hu : u ∈ m.record.verbatim h)
    (he : m.entry h symbols slot = .ok e) : ∃ l ∈ e.lines h, u <:+: l := by
  have hecho {text v : Text} {remark : Option Text}
      (hv : v <:+: h.withComment (h.comment text) remark) :
      ∃ l ∈ (Entry.echo text remark).lines h, v <:+: l :=
    ⟨_, List.mem_singleton_self _, hv.trans (List.suffix_append _ _).isInfix⟩
  rcases entry_eq_ok_iff.mp he with ⟨i, s, hi, hs, rfl⟩ | ⟨hnot, rfl⟩
  · rw [hi] at hu
    rcases List.mem_append.mp hu with hu | hu
    · obtain ⟨l, hl, hul⟩ :=
        Statement.exists_infix_of_mem (s := s) (h := h) (Option.mem_toList.mp hu)
      obtain ⟨l', hl', hll⟩ := Entry.exists_infix_step hl slot
      exact ⟨l', hl', hul.trans hll⟩
    · obtain ⟨l, hl, hul⟩ := Instruction.exists_infix_of_raw? hs (Option.mem_toList.mp hu)
      obtain ⟨l', hl', hll⟩ := Statement.exists_infix_linesWithComment hl i.comment
      obtain ⟨l'', hl'', hlll⟩ := Entry.exists_infix_step hl' slot
      exact ⟨l'', hl'', (hul.trans hll).trans hlll⟩
  · unfold echo
    cases hrecord : m.record with
    | comment text =>
      rw [hrecord] at hu
      obtain rfl := List.mem_singleton.mp hu
      cases u with
      | nil => exact ⟨[], List.mem_singleton_self _, List.infix_refl _⟩
      | cons c t => exact hecho ((h.infix_comment _).trans (h.infix_withComment _ _))
    | definition d => simp [definition?, hrecord] at hm
    | directive d =>
      rw [hrecord] at hu
      exact hecho (h.infix_withComment_of_mem _ (Option.mem_toList.mp hu))
    | label d =>
      rw [hrecord] at hu
      exact hecho (h.infix_withComment_of_mem _ (Option.mem_toList.mp hu))
    | instruction i => simp [isInstruction, hrecord] at hnot

namespace Output

variable {o : Output} {l : Text}

theorem nil_mem_lines (o : Output) : [] ∈ o.lines := by
  simp [lines]

theorem mem_lines_of_definitions (hl : l ∈ o.definitions) : l ∈ o.lines := by
  simp [lines, constantLines, hl]

theorem mem_lines_of_dispatch (hl : l ∈ o.dispatch) : l ∈ o.lines := by
  simp [lines, hl]

end Output

namespace Compilation

variable {c : Config} {l : Listing} {h : Host} {p : Product}

/-- What a record has verbatim is on one line of the output. -/
theorem exists_line_of_verbatim (hy : Yields c l h p) {m : Line} (hm : m ∈ l.lines) {u : Text}
    (hu : u ∈ m.record.verbatim h) : ∃ t ∈ p.output.lines, u <:+: t := by
  -- the analysis may flag a label, and leaves its comment alone
  obtain ⟨m', hm', hu⟩ : ∃ m' ∈ (prepare c l).lines, u ∈ m'.record.verbatim h := by
    have hmem : m.record.verbatim h ∈ l.lines.map fun m => m.record.verbatim h :=
      List.mem_map_of_mem hm
    rw [← map_prepare (f := Record.verbatim h) (fun _ => rfl) c] at hmem
    obtain ⟨m', hm', heq⟩ := List.mem_map.mp hmem
    exact ⟨m', hm', heq ▸ hu⟩
  cases hdefinition : m'.definition? with
  | some d =>
    have hd : d ∈ Line.definitions (prepare c l).lines :=
      List.mem_filterMap.mpr ⟨m', hm', hdefinition⟩
    obtain ⟨rest, hblock, hlines⟩ := Output.exists_of_definitionLines hy.definitions
    obtain ⟨t, ht, v, -, rfl⟩ := Outcome.exists_mem_of_forall₂ hlines hd
    have hcomment : u ∈ d.2.comment := by
      unfold Line.definition? at hdefinition
      split at hdefinition
      · next definition hrecord =>
        cases hdefinition
        rw [hrecord] at hu
        exact Option.mem_toList.mp hu
      · cases hdefinition
    have hmem := List.mem_cons_of_mem (h.comment "Definitions") ht
    rw [← hblock] at hmem
    exact ⟨_, Output.mem_lines_of_definitions hmem, h.infix_withComment_of_mem _ hcomment⟩
  | none =>
    obtain ⟨es, hes, hdispatch⟩ := hy.dispatch
    obtain ⟨e, he, n, hentry⟩ := Outcome.exists_mem_of_forall₂ (Body.forall₂_entries hes) hm'
    have hstamp : (Line.stamp n m').definition? = none := by
      simpa [Line.definition?] using hdefinition
    rw [← Line.record_stamp n m'] at hu
    obtain ⟨t, ht, hut⟩ := Line.exists_infix_of_entry hstamp hu hentry
    -- a blank line may be dropped, but what is on it is on any other line too
    by_cases hne : t = []
    · exact ⟨[], p.output.nil_mem_lines, hne ▸ hut⟩
    · have hmem :=
        (Dispatch.mem_collapseAfter_iff hne true _).mpr (List.mem_flatMap.mpr ⟨e, he, ht⟩)
      refine ⟨t, Output.mem_lines_of_dispatch ?_, hut⟩
      rw [hdispatch]
      exact List.mem_append_left _ (List.mem_append_right _ hmem)

end Compilation

namespace Session

variable {s : Session} {filename source : Text} {p : Product}

/-- No line of the output of a text holds an end of a line, so the lines of the output are what its
blocks were joined from.  A comment of the source, and an operand that is not read, is on one of
them. -/
theorem source_stays_on_its_line (hs : s.config.validate = .ok ())
    (hp : (s.compileText filename source).2 = .ok p) :
    (∀ t ∈ p.output.lines, Within isInLine t) ∧ Text.lines p.output.text = p.output.lines ∧
      ∃ h, Host.ofName? s.config.target = some h ∧
        ∀ m ∈ (Listing.ofLines filename (Text.lines source)).lines,
          ∀ u ∈ m.record.verbatim h, ∃ t ∈ p.output.lines, u <:+: t := by
  have hresult : (Compilation.ofLines s.config false filename (Text.lines source)).result = .ok p :=
    hp
  obtain ⟨h, hy⟩ := Compilation.result_eq_ok_iff.mp hresult
  obtain ⟨hstep, htable⟩ := Config.isIdentifier_of_validate hs
  have hlines := Compilation.within_lines Text.admits_isInLine Text.keepsCase_isInLine hy
    (Text.within_isInLine_of_isIdentifier hstep) (Text.within_isInLine_of_isIdentifier htable)
    fun t ht => Text.within_isInLine_of_mem_lines ht
  refine ⟨hlines, ?_, h, hy.host, fun m hm u hu => Compilation.exists_line_of_verbatim hy hm hu⟩
  rw [Compilation.text_output_eq hy]
  exact Text.lines_joinLines (List.ne_nil_of_mem p.output.nil_mem_lines) hlines

/-- A text whose lines end in other ways than with a line feed. -/
def foldedSource : Text :=
  "SIZE = 2 ; two\x0c  LDA #SIZE ; load\u0085  NOP a b\x1c  CALLPY pass ; escape\u2028  RTS 4,5"

theorem source_stays_on_its_line_of_folded :
    ∃ p, ({ target := "python" } : Config).validate = .ok () ∧
      (compileText { config := { target := "python" } } "folded.asm" foldedSource).2 = .ok p ∧
      (Listing.ofLines "folded.asm" (Text.lines foldedSource)).lines.flatMap
        (·.record.verbatim .python) = ["two", "load", "a b", "escape", "pass", "4,5"] ∧
      (∀ t ∈ p.output.lines, Within isInLine t) ∧ Text.lines p.output.text = p.output.lines ∧
      ∃ h, Host.ofName? ("python" : Text) = some h ∧
        ∀ m ∈ (Listing.ofLines "folded.asm" (Text.lines foldedSource)).lines,
          ∀ u ∈ m.record.verbatim h, ∃ t ∈ p.output.lines, u <:+: t := by
  have hvalid : ({ target := "python" } : Config).validate = .ok () := by rfl
  have hok : (compileText { config := { target := "python" } } "folded.asm" foldedSource).2.isOk =
      true := by
    decide +kernel
  obtain ⟨p, hp⟩ := Outcome.exists_eq_ok_of_isOk hok
  exact ⟨p, hvalid, hp, by decide +kernel, source_stays_on_its_line hvalid hp⟩

end Session

end AsmDispatch
