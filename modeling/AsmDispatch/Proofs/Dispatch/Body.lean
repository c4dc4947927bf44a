import AsmDispatch.Dispatch
import AsmDispatch.Proofs.Line.Stamp
import AsmDispatch.Proofs.Outcome

/-!
# The body of the dispatch procedure

Numbering and emission walk over the same lines with the same running slot.  So the steps of a body
are numbered one after the other, and they are the statements of the instructions in order.
-/

namespace AsmDispatch

namespace Entry

def statement? : Entry → Option Statement
  | .step _ s _ => some s
  | _ => none

/-- The statements of a body in order. -/
def statements (es : List Entry) : List Statement := es.filterMap statement?

/-- The steps have consecutive slots from the given one on. -/
def NumberedFrom (slot : Nat) : List Entry → Prop
  | [] => True
  | .step n _ _ :: es => n = slot ∧ NumberedFrom (slot + 1) es
  | .blank :: es | .echo .. :: es => NumberedFrom slot es

end Entry

namespace Line

/-- What a line leaves in the body: an instruction its step, any other record no step. -/
theorem entry_eq_ok_iff {h : Host} {symbols : Symbols} {slot : Nat} {l : Line} {e : Entry} :
    l.entry h symbols slot = .ok e ↔
      (∃ i s, l.record = .instruction i ∧ i.statement h symbols l.location = .ok s ∧
        e = .step slot s i.comment) ∨ (l.isInstruction = false ∧ e = l.echo) := by
  unfold entry isInstruction
  cases hl : l.record with
  | instruction i =>
    simp only
    rw [Outcome.bind_eq_ok_iff]
    constructor
    · rintro ⟨s, hs, he⟩
      cases he
      exact Or.inl ⟨i, s, rfl, hs, rfl⟩
    · rintro (⟨i', s, hi, hs, rfl⟩ | ⟨hf, -⟩)
      · cases hi
        exact ⟨s, hs, rfl⟩
      · cases hf
  | comment | definition | directive | label =>
    simp only
    constructor
    · intro he
      cases he
      exact Or.inr ⟨trivial, rfl⟩
    · rintro (⟨i, s, hi, -, -⟩ | ⟨-, rfl⟩)
      · cases hi
      · rfl

/-- A record without code leaves no step. -/
theorem echo_eq_blank_or_echo (l : Line) : l.echo = .blank ∨ ∃ t c, l.echo = .echo t c := by
  unfold echo
  split
  · exact Or.inl rfl
  · exact Or.inr ⟨_, _, rfl⟩
  · exact Or.inr ⟨_, _, rfl⟩
  · exact Or.inr ⟨_, _, rfl⟩
  · exact Or.inl rfl
  · exact Or.inl rfl

end Line

namespace Body

variable {h : Host} {symbols : Symbols} {slot : Nat} {l : Line} {ls : List Line} {es : List Entry}

/-- One line more in front of a body. -/
theorem entries_cons_eq_ok_iff :
    (ofLinesFrom h symbols slot (l :: ls)).entries = .ok es ↔
      ∃ e es', (l.stamp slot).entry h symbols slot = .ok e ∧
        (ofLinesFrom h symbols (l.nextSlot slot) ls).entries = .ok es' ∧ es = e :: es' := by
  rw [ofLinesFrom]
  cases he : (l.stamp slot).entry h symbols slot with
  | error f => simp
  | ok e =>
    simp only [Line.nextSlot_stamp]
    rw [Outcome.map_eq_ok_iff]
    constructor
    · rintro ⟨es', hes, rfl⟩
      exact ⟨e, es', rfl, hes, rfl⟩
    · rintro ⟨e', es', he', hes, rfl⟩
      cases he'
      exact ⟨es', hes, rfl⟩

/-- A complete body numbers the whole program. -/
theorem lines_eq_stampFrom (hes : (ofLinesFrom h symbols slot ls).entries = .ok es) :
    (ofLinesFrom h symbols slot ls).lines = Line.stampFrom slot ls := by
  induction ls generalizing slot es with
  | nil => rfl
  | cons l ls ih =>
    obtain ⟨e, es', he, hes', -⟩ := entries_cons_eq_ok_iff.mp hes
    rw [ofLinesFrom, Line.stampFrom]
    simp only [he, Line.nextSlot_stamp, ih hes']

/-- The steps are numbered by the running slot, and are the statements of the instructions. -/
theorem numberedFrom_and_statements (hes : (ofLinesFrom h symbols slot ls).entries = .ok es) :
    Entry.NumberedFrom slot es ∧
      List.Forall₂ (fun q s => q.2.statement h symbols q.1 = .ok s) (Line.instructions ls)
        (Entry.statements es) := by
  induction ls generalizing slot es with
  | nil =>
    cases hes
    exact ⟨trivial, .nil⟩
  | cons l ls ih =>
    obtain ⟨e, es', he, hes', rfl⟩ := entries_cons_eq_ok_iff.mp hes
    obtain ⟨hnum, hstat⟩ := ih hes'
    rw [Line.entry_eq_ok_iff, Line.record_stamp, Line.location_stamp,
      Line.isInstruction_stamp] at he
    rcases he with ⟨i, s, hi, hs, rfl⟩ | ⟨hl, rfl⟩
    · have hnext : l.nextSlot slot = slot + 1 := by simp [Line.nextSlot, Line.isInstruction, hi]
      rw [hnext] at hnum
      rw [Line.instructions_cons_of_record hi]
      exact ⟨⟨rfl, hnum⟩, .cons hs hstat⟩
    · have hnext : l.nextSlot slot = slot := by simp [Line.nextSlot, hl]
      rw [hnext] at hnum
      rw [Line.instructions_cons_of_not hl]
      rcases (l.stamp slot).echo_eq_blank_or_echo with heq | ⟨t, c, heq⟩
      · rw [heq]
        exact ⟨hnum, hstat⟩
      · rw [heq]
        exact ⟨hnum, hstat⟩

end Body

end AsmDispatch
