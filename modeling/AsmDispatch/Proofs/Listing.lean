import AsmDispatch.Listing
import AsmDispatch.Proofs.Line.Label
import AsmDispatch.Proofs.Text.Within

/-!
# What is recognised

A form takes a line apart and adds nothing of its own, except that a mnemonic goes to upper case.
Names of labels and of definitions are runs of word characters, and no label is flagged as data
before the analysis.

## Main statements

* `Form.readFrom_of_read?`: what a form makes of a text, form by form.
* `Listing.exists_readFrom_of_mem`: every record of a listing comes from a line of the source.
-/

namespace AsmDispatch

/-- The record is as it was recognised in a line of source. -/
def Record.IsRead : Record → Prop
  | .label d => Text.IsWordRun d.name ∧ d.isData = false
  | .definition d => Text.IsWordRun d.name
  | _ => True

/-- The comment is a part of a text and stays on one line. -/
def Form.NoteFrom (t : Text) (remark : Option Text) : Prop := ∀ u ∈ remark, u ⊆ t ∧ '\n' ∉ u

/-- The record was recognised in a text: its parts are parts of the text, comments stay on one line,
and the names of labels and of definitions are words. -/
inductive Record.ReadFrom (t : Text) : Record → Prop
  | comment {u : Text} (sub : u ⊆ t) (oneLine : '\n' ∉ u) : ReadFrom t (.comment u)
  | definition {d : Definition} (name : Text.IsWordRun d.name)
      (remark : Form.NoteFrom t d.comment) : ReadFrom t (.definition d)
  | directive {d : Directive} (name : d.name ⊆ t) (operand : d.operand ⊆ t)
      (remark : Form.NoteFrom t d.comment) : ReadFrom t (.directive d)
  | label {d : Label} (name : Text.IsWordRun d.name) (isData : d.isData = false)
      (remark : Form.NoteFrom t d.comment) : ReadFrom t (.label d)
  | instruction {word rest : Text} {note : Option Text} (mnemonic : word ⊆ t)
      (operand : rest ⊆ t) (remark : Form.NoteFrom t note) :
      ReadFrom t (.instruction (.ofText word rest note))

theorem Form.NoteFrom.mono {t u : Text} {remark : Option Text} (h : NoteFrom t remark)
    (htu : t ⊆ u) : NoteFrom u remark := fun v hv => ⟨List.Subset.trans (h v hv).1 htu, (h v hv).2⟩

theorem Form.noteFrom_none (t : Text) : NoteFrom t none := fun _ hu => nomatch hu

namespace Record.ReadFrom

variable {t u : Text} {r : Record}

theorem mono (h : r.ReadFrom t) (htu : t ⊆ u) : r.ReadFrom u := by
  cases h with
  | comment hsub hline => exact .comment (List.Subset.trans hsub htu) hline
  | definition hname hremark => exact .definition hname (hremark.mono htu)
  | directive hname hoperand hremark =>
    exact .directive (List.Subset.trans hname htu) (List.Subset.trans hoperand htu)
      (hremark.mono htu)
  | label hname hdata hremark => exact .label hname hdata (hremark.mono htu)
  | instruction hword hoperand hremark =>
    exact .instruction (List.Subset.trans hword htu) (List.Subset.trans hoperand htu)
      (hremark.mono htu)

theorem isRead (h : r.ReadFrom t) : r.IsRead := by
  cases h with
  | label hname hdata _ => exact ⟨hname, hdata⟩
  | definition hname _ => exact hname
  | comment | directive | instruction => trivial

end Record.ReadFrom

/-! ## Forms -/

namespace Form

theorem run?_subset {p : Char → Bool} {t u r : Text} (h : Text.run? p t = some (u, r)) :
    u ⊆ t ∧ r ⊆ t := by
  obtain ⟨rfl, -⟩ := Text.eq_append_of_run?_eq_some h
  exact ⟨List.subset_append_left u r, List.subset_append_right u r⟩

theorem not_mem_of_isOneLine {t : Text} (h : Text.isOneLine t = true) : '\n' ∉ t := by
  simpa [Text.isOneLine] using h

theorem noteFrom_readNote? {t : Text} {remark : Option Text} (h : readNote? t = some remark) :
    NoteFrom t remark := by
  unfold readNote? at h
  split at h
  · next r =>
    split at h
    · next hline =>
      cases h
      intro u hu
      unfold note at hu
      split at hu
      · cases hu
      · cases hu
        exact ⟨List.subset_cons_of_subset _ (Text.strip_subset r),
          fun hmem => not_mem_of_isOneLine hline (Text.strip_subset r hmem)⟩
    · cases h
  · cases h
    exact noteFrom_none _
  · cases h

theorem fromNote_subset (t : Text) : fromNote t ⊆ t := (List.dropWhile_sublist _).subset

theorem beforeNote_subset (t : Text) : beforeNote t ⊆ t := (List.takeWhile_sublist _).subset

theorem readFrom_of_readOperand? {t operand : Text} {remark : Option Text}
    (h : readOperand? t = some (operand, remark)) : operand ⊆ t ∧ NoteFrom t remark := by
  unfold readOperand? at h
  obtain ⟨remark', hremark, h⟩ := Option.bind_eq_some_iff.mp h
  have hnote := (noteFrom_readNote? hremark).mono (fromNote_subset t)
  split at h
  · cases h
    exact ⟨List.nil_subset t, hnote⟩
  · next c r hbefore =>
    split at h
    · cases h
      rw [← hbefore]
      exact ⟨List.Subset.trans (Text.strip_subset _) (beforeNote_subset t), hnote⟩
    · cases h

theorem readFrom_of_readDirective? {t : Text} {r : Record} (h : readDirective? t = some r) :
    r.ReadFrom t := by
  unfold readDirective? at h
  split at h
  · next t' =>
    obtain ⟨⟨name, rest⟩, hrun, h⟩ := Option.bind_eq_some_iff.mp h
    obtain ⟨⟨operand, remark⟩, hoperand, h⟩ := Option.bind_eq_some_iff.mp h
    obtain ⟨hname, hrest⟩ := run?_subset hrun
    obtain ⟨hoperand, hremark⟩ := readFrom_of_readOperand? hoperand
    have hsub : rest ⊆ '.' :: t' := List.subset_cons_of_subset _ hrest
    cases h
    exact .directive (List.cons_subset_cons _ hname) (List.Subset.trans hoperand hsub)
      (hremark.mono hsub)
  · cases h

theorem readFrom_of_readInstruction? {t : Text} {r : Record} (h : readInstruction? t = some r) :
    r.ReadFrom t := by
  unfold readInstruction? at h
  obtain ⟨⟨mnemonic, rest⟩, hrun, h⟩ := Option.bind_eq_some_iff.mp h
  obtain ⟨⟨operand, remark⟩, hoperand, h⟩ := Option.bind_eq_some_iff.mp h
  obtain ⟨hmnemonic, hrest⟩ := run?_subset hrun
  obtain ⟨hoperand, hremark⟩ := readFrom_of_readOperand? hoperand
  cases h
  exact .instruction hmnemonic (List.Subset.trans hoperand hrest) (hremark.mono hrest)

theorem isWordRun_of_readName? {t name r : Text} (h : readName? t = some (name, r)) :
    Text.IsWordRun name ∧ r ⊆ t := by
  unfold readName? at h
  obtain ⟨⟨name', t'⟩, hrun, h⟩ := Option.bind_eq_some_iff.mp h
  split at h
  · next heq =>
    cases heq
    cases h
    exact ⟨Text.isWordRun_of_run?_eq_some hrun,
      List.Subset.trans (List.subset_cons_self _ _) (run?_subset hrun).2⟩
  · cases h

theorem indented?_subset {t r : Text} (h : indented? t = some r) : r ⊆ t := by
  obtain ⟨p, hrun, rfl⟩ := Option.map_eq_some_iff.mp h
  exact (run?_subset hrun).2

theorem subset_of_stripStart_eq_cons {t u : Text} {c : Char} (h : Text.stripStart t = c :: u) :
    u ⊆ t := by
  have hsub := Text.stripStart_subset t
  rw [h] at hsub
  exact List.Subset.trans (List.subset_cons_self c u) hsub

/-- Whatever a form makes of a text comes from the text. -/
theorem readFrom_of_read? {form : Form} {t : Text} {rs : List Record}
    (h : form.read? t = some rs) : ∀ r ∈ rs, r.ReadFrom t := by
  cases form with
  | blank =>
    unfold read? at h
    simp only at h
    split at h
    · cases h
      exact List.forall_mem_singleton.mpr (.comment (List.nil_subset t) List.not_mem_nil)
    · cases h
  | comment =>
    unfold read? at h
    simp only at h
    split at h
    · next u hstart =>
      split at h
      · next hline =>
        cases h
        have hsub := List.Subset.trans (Text.strip_subset u) (subset_of_stripStart_eq_cons hstart)
        refine List.forall_mem_singleton.mpr (.comment hsub ?_)
        exact fun hmem => not_mem_of_isOneLine hline (Text.strip_subset u hmem)
      · cases h
    · cases h
  | definition =>
    obtain ⟨⟨name, rest⟩, hrun, h⟩ := Option.bind_eq_some_iff.mp h
    simp only at h
    split at h
    · next u hstart =>
      obtain ⟨remark, hremark, h⟩ := Option.bind_eq_some_iff.mp h
      cases h
      have hsub := List.Subset.trans (subset_of_stripStart_eq_cons hstart) (run?_subset hrun).2
      refine List.forall_mem_singleton.mpr (.definition (Text.isWordRun_of_run?_eq_some hrun) ?_)
      exact (noteFrom_readNote? hremark).mono (List.Subset.trans (fromNote_subset u) hsub)
    · cases h
  | directive =>
    obtain ⟨rest, hindent, h⟩ := Option.bind_eq_some_iff.mp h
    obtain ⟨d, hd, h⟩ := Option.bind_eq_some_iff.mp h
    cases h
    exact List.forall_mem_singleton.mpr
      ((readFrom_of_readDirective? hd).mono (indented?_subset hindent))
  | label =>
    obtain ⟨⟨name, rest⟩, hname, h⟩ := Option.bind_eq_some_iff.mp h
    obtain ⟨remark, hremark, h⟩ := Option.bind_eq_some_iff.mp h
    cases h
    obtain ⟨hname, hrest⟩ := isWordRun_of_readName? hname
    exact List.forall_mem_singleton.mpr (.label hname rfl
      ((noteFrom_readNote? hremark).mono (List.Subset.trans (Text.stripStart_subset rest) hrest)))
  | labelledInstruction =>
    obtain ⟨⟨name, rest⟩, hname, h⟩ := Option.bind_eq_some_iff.mp h
    obtain ⟨rest', hindent, h⟩ := Option.bind_eq_some_iff.mp h
    obtain ⟨i, hi, h⟩ := Option.bind_eq_some_iff.mp h
    cases h
    obtain ⟨hname, hrest⟩ := isWordRun_of_readName? hname
    have hsub := List.Subset.trans (indented?_subset hindent) hrest
    exact List.forall_mem_cons.mpr ⟨.label hname rfl (noteFrom_none t),
      List.forall_mem_singleton.mpr ((readFrom_of_readInstruction? hi).mono hsub)⟩
  | labelledDirective =>
    obtain ⟨⟨name, rest⟩, hname, h⟩ := Option.bind_eq_some_iff.mp h
    obtain ⟨rest', hindent, h⟩ := Option.bind_eq_some_iff.mp h
    obtain ⟨d, hd, h⟩ := Option.bind_eq_some_iff.mp h
    cases h
    obtain ⟨hname, hrest⟩ := isWordRun_of_readName? hname
    have hsub := List.Subset.trans (indented?_subset hindent) hrest
    exact List.forall_mem_cons.mpr ⟨.label hname rfl (noteFrom_none t),
      List.forall_mem_singleton.mpr ((readFrom_of_readDirective? hd).mono hsub)⟩
  | instruction =>
    obtain ⟨rest, hindent, h⟩ := Option.bind_eq_some_iff.mp h
    obtain ⟨i, hi, h⟩ := Option.bind_eq_some_iff.mp h
    cases h
    exact List.forall_mem_singleton.mpr
      ((readFrom_of_readInstruction? hi).mono (indented?_subset hindent))

end Form

theorem readFrom_of_classify? {t : Text} {rs : List Record} (h : classify? t = some rs) :
    ∀ r ∈ rs, r.ReadFrom t := by
  obtain ⟨form, -, hform⟩ := List.exists_of_findSome?_eq_some h
  exact fun r hr => (Form.readFrom_of_read? hform r hr).mono (Text.stripEnd_subset t)

namespace Listing

/-- Every record of the listing is as it was recognised. -/
def IsRead (l : Listing) : Prop := ∀ m ∈ l.lines, m.record.IsRead

theorem dropLineEnd_subset (t : Text) : Text.dropLineEnd t ⊆ t := fun _ hc =>
  List.mem_reverse.mp ((List.dropWhile_sublist _).subset (List.mem_reverse.mp hc))

/-- Every record was recognised in a line of the source. -/
theorem exists_readFrom_of_mem {filename : Text} {number : Nat} {ts : List Text} {m : Line}
    (hm : m ∈ (ofLinesFrom filename number ts).lines) : ∃ t ∈ ts, m.record.ReadFrom t := by
  induction ts generalizing number with
  | nil => cases hm
  | cons t ts ih =>
    rw [ofLinesFrom] at hm
    unfold readLine at hm
    cases hread : classify? (Text.dropLineEnd t) with
    | none =>
      simp only [hread] at hm
      obtain ⟨t', ht', hfrom⟩ := ih hm
      exact ⟨t', List.mem_cons_of_mem _ ht', hfrom⟩
    | some rs =>
      simp only [hread] at hm
      rcases List.mem_append.mp hm with hm | hm
      · obtain ⟨r, hr, rfl⟩ := List.mem_map.mp hm
        exact ⟨t, List.mem_cons_self,
          (readFrom_of_classify? hread r hr).mono (dropLineEnd_subset t)⟩
      · obtain ⟨t', ht', hfrom⟩ := ih hm
        exact ⟨t', List.mem_cons_of_mem _ ht', hfrom⟩

theorem isRead_ofLines (filename : Text) (ts : List Text) : (ofLines filename ts).IsRead := by
  intro m hm
  obtain ⟨t, -, hfrom⟩ := exists_readFrom_of_mem hm
  exact hfrom.isRead

namespace IsRead

variable {l : Listing} {name : Text}

theorem isWordRun_of_mem_labelNames (hl : l.IsRead) (hname : name ∈ Line.labelNames l.lines) :
    Text.IsWordRun name := by
  obtain ⟨m, hm, hname⟩ := Line.mem_labelNames_iff.mp hname
  obtain ⟨d, hd, rfl⟩ := Line.exists_label_of_labelName? hname
  have hread := hl m hm
  rw [hd] at hread
  exact hread.1

theorem isWordRun_of_mem_definitions (hl : l.IsRead) {q : Option Location × Definition}
    (hq : q ∈ Line.definitions l.lines) : Text.IsWordRun q.2.name := by
  obtain ⟨m, hm, hq⟩ := List.mem_filterMap.mp hq
  have hread := hl m hm
  unfold Line.definition? at hq
  split at hq
  · next d hd =>
    cases hq
    rw [hd] at hread
    exact hread
  · cases hq

theorem isDataLabel_eq_false (hl : l.IsRead) {m : Line} (hm : m ∈ l.lines) :
    m.isDataLabel = false := by
  have hread := hl m hm
  unfold Line.isDataLabel
  cases hrecord : m.record with
  | label d =>
    rw [hrecord] at hread
    exact hread.2
  | comment | definition | directive | instruction => rfl

end IsRead

end Listing

end AsmDispatch
