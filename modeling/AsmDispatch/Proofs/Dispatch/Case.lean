import AsmDispatch.Proofs.Dispatch.Tidy
import AsmDispatch.Proofs.Region.Table
import AsmDispatch.Proofs.Text.Numeral

/-!
# The cases of the procedure

Each step has a line in front that opens its case.  These lines are found again in the text: they
stand at the first level, are no comments, and end with the label of the case.  Whatever source a
statement holds, it stands one level deeper and is not mistaken for a case.

## Main statements

* `Dispatch.countP_opensCase_lines`: every slot has one case, and no other number has any.
* `Dispatch.exists_eq_append_of_mem`: the lines of a step stand together in the procedure.
-/

namespace AsmDispatch

namespace Host

/-- What the label of a case has in front of its number. -/
def caseStart : Host → Text
  | .javascript => "case "
  | .python => "if pc == "

def caseLabel (h : Host) (n : Nat) : Text := h.caseStart ++ Text.decimal n ++ ":"

/-- What stands in front of the label of a case: a switch first ends the case before. -/
def caseLead (h : Host) (n : Nat) : Text :=
  match h with
  | .javascript => "pc=" ++ Text.decimal n ++ "; break; "
  | .python => []

/-- The line that opens a case. -/
def caseLine (h : Host) (n : Nat) : Text := h.indent 1 ++ (h.caseLead n ++ h.caseLabel n)

end Host

/-- What is put behind a statement: in a chain of cases, unless the step has ended, its end at the
next slot. -/
def Statement.onward (h : Host) (slot : Nat) (s : Statement) : List Text :=
  match h with
  | .javascript => []
  | .python => if s.transfers then [] else ["return " ++ Text.decimal (slot + 1)]

namespace Dispatch

variable {h : Host} {n k : Nat} {l : Text}

/-- Whether a line of the procedure opens the case of a number. -/
def opensCase (h : Host) (n : Nat) (l : Text) : Bool :=
  l == h.indent 1 ++ Text.stripStart l && !Output.isNote h l && (h.caseLabel n).isSuffixOf l

theorem opensCase_eq_true_iff :
    opensCase h n l = true ↔ l = h.indent 1 ++ Text.stripStart l ∧ Output.isNote h l = false ∧
      h.caseLabel n <:+ l := by
  simp only [opensCase, Bool.and_eq_true, beq_iff_eq, Bool.not_eq_true', and_assoc,
    List.isSuffixOf_iff_suffix]

/-! ## Numbers of cases -/

/-- The digits in front of the last character, from the last one on. -/
def lastDigits (l : Text) : Text := (l.reverse.drop 1).takeWhile Char.isDigit

theorem lastDigits_of_suffix (hl : h.caseLabel n <:+ l) :
    lastDigits l = (Text.decimal n).reverse := by
  obtain ⟨u, rfl⟩ := hl
  have hrest : (u ++ h.caseLabel n).reverse.drop 1 =
      (Text.decimal n).reverse ++ (h.caseStart.reverse ++ u.reverse) := by
    simp [Host.caseLabel]
  have hstops : Text.Stops Char.isDigit (h.caseStart.reverse ++ u.reverse) := by
    cases h with
    | javascript | python => exact Text.stops_cons.mpr (by decide)
  rw [lastDigits, hrest]
  exact Text.takeWhile_append_stops
    (fun c hc => Text.isDigit_of_mem_decimal (List.mem_reverse.mp hc)) hstops

/-- A line ends with the label of one case at most. -/
theorem eq_of_suffix (hn : h.caseLabel n <:+ l) (hk : h.caseLabel k <:+ l) : n = k := by
  have hdigits := (lastDigits_of_suffix hn).symm.trans (lastDigits_of_suffix hk)
  exact Text.decimal_injective (List.reverse_injective hdigits)

/-! ## Lines that open a case, and others -/

theorem stops_caseLead (h : Host) (k : Nat) (p : Char → Bool)
    (hp : p 'p' = false) (hi : p 'i' = false) : Text.Stops p (h.caseLead k ++ h.caseLabel k) := by
  cases h with
  | javascript => exact Text.stops_cons.mpr hp
  | python => exact Text.stops_cons.mpr hi

theorem opensCase_caseLine (h : Host) (n k : Nat) :
    opensCase h n (h.caseLine k) = decide (k = n) := by
  have hsuffix : h.caseLabel k <:+ h.caseLine k :=
    (List.suffix_append _ _).trans (List.suffix_append _ _)
  have hstart : Text.stripStart (h.caseLine k) = h.caseLead k ++ h.caseLabel k :=
    Output.stripStart_indent_append (stops_caseLead h k _ (by decide) (by decide)) 1
  rw [Bool.eq_iff_iff, opensCase_eq_true_iff, decide_eq_true_eq]
  constructor
  · rintro ⟨-, -, hn⟩
    exact eq_of_suffix hsuffix hn
  · rintro rfl
    refine ⟨?_, ?_, hsuffix⟩
    · rw [hstart]
      rfl
    · rw [Output.isNote, hstart]
      cases h <;> rfl

theorem opensCase_nil (h : Host) (n : Nat) : opensCase h n [] = false := by
  cases h <;> rfl

theorem opensCase_of_isNote (hl : Output.isNote h l = true) : opensCase h n l = false := by
  simp [opensCase, hl]

/-- A line that does not end with a colon opens no case. -/
theorem opensCase_of_getLast? (hl : l.getLast? ≠ some ':') : opensCase h n l = false := by
  rw [Bool.eq_false_iff]
  intro hopens
  obtain ⟨-, -, u, rfl⟩ := opensCase_eq_true_iff.mp hopens
  refine hl ?_
  rw [Host.caseLabel, ← List.append_assoc]
  exact List.getLast?_concat

/-- A line at the second level opens no case. -/
theorem opensCase_indent_two (h : Host) (n : Nat) (t : Text) :
    opensCase h n (h.indent 2 ++ t) = false := by
  rw [Bool.eq_false_iff]
  intro hopens
  obtain ⟨hline, -, -⟩ := opensCase_eq_true_iff.mp hopens
  have hindent : h.indent 2 ++ t = h.indent 1 ++ (h.indent 1 ++ t) := by
    cases h <;> rfl
  -- what is left of the line without its blanks would start with one
  have hstart : h.indent 1 ++ t = Text.stripStart (h.indent 2 ++ t) :=
    List.append_cancel_left (hindent.symm.trans hline)
  have hstops : Text.Stops Text.isBlank (h.indent 1 ++ t) := by
    rw [hstart]
    exact Text.stops_dropWhile _ _
  cases h with
  | javascript | python => exact absurd (Text.stops_cons.mp hstops) (by decide)

theorem opensCase_of_head? (hl : l.head? ≠ some ' ') : opensCase h n l = false := by
  rw [Bool.eq_false_iff]
  intro hopens
  obtain ⟨hline, -, -⟩ := opensCase_eq_true_iff.mp hopens
  rw [hline] at hl
  cases h with
  | javascript | python => exact hl rfl

theorem opensCase_opening {name : Text} (hl : l ∈ opening h name) : opensCase h n l = false := by
  cases h with
  | javascript =>
    simp only [opening, List.mem_cons, List.not_mem_nil, or_false] at hl
    rcases hl with rfl | rfl | rfl
    · exact opensCase_of_head? (by simp)
    · exact opensCase_of_getLast? (by decide)
    · exact opensCase_of_getLast? (by decide)
  | python =>
    rw [List.mem_singleton.mp hl]
    exact opensCase_of_head? (by simp)

theorem opensCase_closing {slotCount : Nat} (hl : l ∈ closing h slotCount) :
    opensCase h n l = false := by
  cases h with
  | javascript =>
    simp only [closing, List.mem_cons, List.not_mem_nil, or_false] at hl
    rcases hl with rfl | rfl | rfl | rfl
    · refine opensCase_of_getLast? ?_
      rw [List.getLast?_append]
      simp
    · exact opensCase_of_getLast? (by decide)
    · exact opensCase_of_getLast? (by decide)
    · exact opensCase_of_getLast? (by decide)
  | python =>
    rw [List.mem_singleton.mp hl]
    exact opensCase_of_getLast? (by decide)

end Dispatch

namespace Entry

variable {h : Host} {n slot : Nat} {es : List Entry}

/-- The lines of a step: one that opens its case, and the others one level deeper. -/
theorem lines_step_eq (h : Host) (k : Nat) (s : Statement) (comment : Option Text) :
    (step k s comment).lines h = h.caseLine k ::
      (s.linesWithComment h comment ++ s.onward h k).map (h.indent 2 ++ ·) := by
  cases h with
  | javascript =>
    simp [lines, Statement.onward, Host.caseLine, Host.caseLead, Host.caseLabel, Host.caseStart]
  | python =>
    cases hs : s.transfers <;>
      simp [lines, Statement.onward, Host.caseLine, Host.caseLead, Host.caseLabel, Host.caseStart, hs]

/-- An echoed record starts as a comment, also with a comment of its own behind. -/
theorem exists_withComment_comment_eq (h : Host) (text : Text) (comment : Option Text) :
    ∃ u, h.withComment (h.comment text) comment = h.commentMark ++ u := by
  obtain ⟨u, hu⟩ := Output.exists_comment_eq (h := h) text
  rw [hu]
  unfold Host.withComment
  split
  · exact ⟨u, rfl⟩
  · exact ⟨u, rfl⟩
  · exact ⟨_, by rw [List.append_assoc, List.append_assoc]⟩

/-- Whether an entry is the step of a slot. -/
def isStepAt (n : Nat) : Entry → Bool
  | .step k _ _ => decide (k = n)
  | _ => false

theorem countP_opensCase (h : Host) (n : Nat) (e : Entry) :
    (e.lines h).countP (Dispatch.opensCase h n) = if e.isStepAt n then 1 else 0 := by
  cases e with
  | blank =>
    rw [lines, List.countP_singleton, Dispatch.opensCase_nil]
    rfl
  | echo text comment =>
    have hnote : Output.isNote h
        (h.indent 1 ++ h.withComment (h.comment text) comment) = true := by
      obtain ⟨u, hu⟩ := exists_withComment_comment_eq h text comment
      rw [hu]
      exact Output.isNote_commentMark_append 1 u
    rw [lines, List.countP_singleton, Dispatch.opensCase_of_isNote hnote]
    rfl
  | step k s comment =>
    have hrest : ((s.linesWithComment h comment ++ s.onward h k).map (h.indent 2 ++ ·)).countP
        (Dispatch.opensCase h n) = 0 := by
      refine List.countP_eq_zero.mpr fun l hl => ?_
      obtain ⟨t, -, rfl⟩ := List.mem_map.mp hl
      simp [Dispatch.opensCase_indent_two]
    rw [lines_step_eq, List.countP_cons, hrest, Dispatch.opensCase_caseLine, Nat.zero_add]
    rfl

theorem countP_opensCase_flatMap (h : Host) (n : Nat) (es : List Entry) :
    (es.flatMap (·.lines h)).countP (Dispatch.opensCase h n) = es.countP (isStepAt n) := by
  induction es with
  | nil => rfl
  | cons e es ih =>
    rw [List.flatMap_cons, List.countP_append, ih, countP_opensCase, List.countP_cons, Nat.add_comm]

/-- Consecutive steps have each of their slots once. -/
theorem NumberedFrom.countP_isStepAt (hes : NumberedFrom slot es) (n : Nat) :
    es.countP (isStepAt n) = if slot ≤ n ∧ n < slot + (statements es).length then 1 else 0 := by
  induction es generalizing slot with
  | nil =>
    rw [if_neg]
    · rfl
    · rintro ⟨hle, hlt⟩
      change n < slot + 0 at hlt
      omega
  | cons e es ih =>
    cases e with
    | blank => exact ih hes
    | echo text comment => exact ih hes
    | step k s comment =>
      obtain ⟨rfl, htail⟩ := hes
      have hlength : (statements (.step k s comment :: es)).length = (statements es).length + 1 :=
        rfl
      rw [List.countP_cons, ih htail, hlength, isStepAt]
      split_ifs <;> simp_all <;> omega

end Entry

namespace Dispatch

variable {h : Host} {es : List Entry}

/-- Every slot has one case, and no other number has any. -/
theorem countP_opensCase_lines (hes : Entry.NumberedFrom 0 es) (name : Text) (slotCount n : Nat) :
    (lines h name slotCount es).countP (opensCase h n) =
      if n < (Entry.statements es).length then 1 else 0 := by
  have hopening : (opening h name).countP (opensCase h n) = 0 :=
    List.countP_eq_zero.mpr fun l hl => by simp [opensCase_opening hl]
  have hclosing : (closing h slotCount).countP (opensCase h n) = 0 :=
    List.countP_eq_zero.mpr fun l hl => by simp [opensCase_closing hl]
  rw [lines, List.countP_append, List.countP_append, hopening, hclosing, Entry.collapse_lines,
    Entry.countP_opensCase_flatMap, hes.tidy.countP_isStepAt, Entry.statements_tidy]
  simp

theorem mem_tidyAfter_of_mem {slot : Nat} {s : Statement} {comment : Option Text}
    (hs : Entry.step slot s comment ∈ es) (blank : Bool) :
    Entry.step slot s comment ∈ Entry.tidyAfter blank es := by
  induction es generalizing blank with
  | nil => cases hs
  | cons e es ih =>
    cases e with
    | blank =>
      have htail := (List.mem_cons.mp hs).resolve_left (by simp)
      rw [Entry.tidyAfter]
      split
      · exact ih htail true
      · exact List.mem_cons_of_mem _ (ih htail true)
    | echo text comment =>
      have htail := (List.mem_cons.mp hs).resolve_left (by simp)
      exact List.mem_cons_of_mem _ (ih htail false)
    | step n t comment =>
      rcases List.mem_cons.mp hs with heq | htail
      · rw [heq]
        exact List.mem_cons_self
      · exact List.mem_cons_of_mem _ (ih htail false)

/-- The lines of a step stand together in the procedure. -/
theorem exists_eq_append_of_mem {slot : Nat} {s : Statement} {comment : Option Text}
    (hs : Entry.step slot s comment ∈ es) (h : Host) (name : Text) (slotCount : Nat) :
    ∃ front rest, lines h name slotCount es =
      front ++ (Entry.step slot s comment).lines h ++ rest := by
  obtain ⟨es₁, es₂, hes⟩ := List.append_of_mem (mem_tidyAfter_of_mem hs true)
  refine ⟨opening h name ++ es₁.flatMap (·.lines h),
    es₂.flatMap (·.lines h) ++ closing h slotCount, ?_⟩
  rw [lines, Entry.collapse_lines, Entry.tidy, hes]
  simp

end Dispatch

end AsmDispatch
