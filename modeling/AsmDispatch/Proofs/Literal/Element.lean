import AsmDispatch.Proofs.Literal.Acceptance
import AsmDispatch.Proofs.Literal.Grouping

/-!
# Rendered literals between commas

A rendered literal has no comma, starts as a word and does not end with a blank.  So a list of them
can be read back from the text in which commas separate them, and none looks like a comment.
-/

namespace AsmDispatch.Literal

open Text (isBlank isWord Stops)

/-- The text has no comma, starts as a word and does not end with a blank. -/
structure Element (t : Text) : Prop where
  start : ∃ c u, t = c :: u ∧ isWord c = true
  stop : Stops isBlank t.reverse
  comma : ',' ∉ t

namespace Element

variable {t u v : Text}

theorem ne_nil (h : Element t) : t ≠ [] := by
  obtain ⟨c, u, rfl, -⟩ := h.start
  exact List.cons_ne_nil _ _

theorem stopsBlank (h : Element t) : Stops isBlank t := by
  obtain ⟨c, u, rfl, hc⟩ := h.start
  exact Text.stops_cons.mpr (Text.isBlank_eq_false_of_isWord hc)

theorem strip_append (h : Element t) (hu : ∀ c ∈ u, isBlank c = true) :
    Text.strip (u ++ t) = t := by
  rw [Text.strip_append_of_blank hu, Text.strip_eq_self h.stopsBlank h.stop]

theorem of_word (hne : t ≠ []) (hall : ∀ c ∈ t, isWord c = true) : Element t := by
  refine ⟨?_, ?_, ?_⟩
  · obtain ⟨c, u, rfl⟩ := List.exists_cons_of_ne_nil hne
    exact ⟨c, u, rfl, hall c List.mem_cons_self⟩
  · exact Text.stops_reverse_of_forall fun c hc => Text.isBlank_eq_false_of_isWord (hall c hc)
  · intro hmem
    exact absurd (hall _ hmem) (by decide)

/-- What follows an element may be anything without a comma that does not end with a blank. -/
theorem append (hu : Element u) (hne : v ≠ []) (hstop : Stops isBlank v.reverse)
    (hcomma : ',' ∉ v) : Element (u ++ v) := by
  refine ⟨?_, ?_, ?_⟩
  · obtain ⟨c, r, rfl, hc⟩ := hu.start
    exact ⟨c, r ++ v, rfl, hc⟩
  · rw [List.reverse_append]
    exact hstop.append (List.reverse_ne_nil_iff.mpr hne) _
  · intro hmem
    rcases List.mem_append.mp hmem with hmem | hmem
    · exact hu.comma hmem
    · exact hcomma hmem

/-- An element in parentheses behind another text without a comma. -/
theorem append_parens (hu : Element u) (hv : Element v) {w : Text} (hw : ',' ∉ w) :
    Element (u ++ (w ++ "(" ++ v ++ ")")) := by
  refine hu.append (by simp) ?_ ?_
  · rw [List.reverse_append]
    exact Text.stops_cons.mpr (by decide)
  · simp [hw, hv.comma]

end Element

theorem AtomDerivation.element_render (a : AtomDerivation) : Element a.atom.render := by
  induction a with
  | hex ds => exact .of_word (List.cons_ne_nil _ _) fun _ => isWord_of_mem_render_hex ds
  | bin ds => exact .of_word (List.cons_ne_nil _ _) fun _ => isWord_of_mem_render_bin ds
  | word cs => exact .of_word cs.ne_nil cs.all
  | low gap a ih =>
    have hname : ['L', 'O'].all isWord = true := by decide
    exact (Element.of_word (by decide) (List.all_eq_true.mp hname)).append_parens ih
      List.not_mem_nil
  | high gap a ih =>
    have hname : ['H', 'I'].all isWord = true := by decide
    exact (Element.of_word (by decide) (List.all_eq_true.mp hname)).append_parens ih
      List.not_mem_nil

theorem ExprDerivation.element_render (e : ExprDerivation) : Element e.expr.render := by
  induction e with
  | atom a => exact a.element_render
  | chain left before op after right ih =>
    have hop : ',' ∉ [' ', op.symbol, ' '] := by cases op <;> decide
    rw [expr, Expr.render, List.append_assoc]
    split
    · have hparens := left.element_render.append_parens ih hop
      simpa only [List.append_assoc] using hparens
    · refine left.element_render.append (by simp) ?_ ?_
      · rw [List.reverse_append]
        exact ih.stop.append (List.reverse_ne_nil_iff.mpr ih.ne_nil) _
      · intro hmem
        rcases List.mem_append.mp hmem with hmem | hmem
        · exact hop hmem
        · exact ih.comma hmem

/-- Every literal is written as one element. -/
theorem element_of_format {t v : Text} {location : Option Location}
    (h : format t location = .ok v) : Element v := by
  obtain ⟨d, -, rfl⟩ := format_eq_ok_iff.mp h
  exact d.body.element_render

end AsmDispatch.Literal
