import AsmDispatch.Literal.Format
import AsmDispatch.Proofs.Literal.Derivation

/-!
# The scanner accepts exactly the grammar

The scanner takes the longest run it can and never goes back.  It is sound because what it took is
a derivation.  It is complete because behind an atom a derivation has a blank, an operator or the
end of the text, none of which could have made a run longer.
-/

namespace AsmDispatch.Literal

open Text (isBlank isWord Stops stops_cons run? run?_append eq_append_of_run?_eq_some)

/-! ## What the grammar derives is accepted -/

section Complete

variable {u r r' t : Text} {a : Atom} {o : Operator}

theorem scanAtom_append_of_blank (hu : ∀ c ∈ u, isBlank c = true) :
    scanAtom (u ++ t) = scanAtom t := by
  induction u with
  | nil => rfl
  | cons c u ih =>
    rw [List.cons_append, scanAtom, if_pos (hu c List.mem_cons_self)]
    exact ih fun d hd => hu d (List.mem_cons_of_mem c hd)

theorem scanOperator?_append_of_blank (hu : ∀ c ∈ u, isBlank c = true) :
    scanOperator? (u ++ t) = scanOperator? t := by
  induction u with
  | nil => rfl
  | cons c u ih =>
    rw [List.cons_append, scanOperator?, if_pos (hu c List.mem_cons_self)]
    exact ih fun d hd => hu d (List.mem_cons_of_mem c hd)

@[simp] theorem scanOperator?_symbol (o : Operator) (t : Text) :
    scanOperator? (o.symbol :: t) = some (o, t) := by
  simp [scanOperator?]

theorem scanLeaf?_hex (ds : Run isHexDigit) (hr : Stops isWord r) :
    scanLeaf? ('$' :: (ds.text ++ r)) = some (.hex ds.text, r) := by
  have hrun := run?_append ds.all ds.ne_nil (hr.mono fun _ => isWord_of_isHexDigit)
  simp only [scanLeaf?, hrun, Option.map_some]

theorem scanLeaf?_bin (ds : Run isBinDigit) (hr : Stops isWord r) :
    scanLeaf? ('%' :: (ds.text ++ r)) = some (.bin ds.text, r) := by
  have hrun := run?_append ds.all ds.ne_nil
    (hr.mono fun _ h => isWord_of_isHexDigit (isHexDigit_of_isBinDigit h))
  simp only [scanLeaf?, hrun, Option.map_some]

theorem scanLeaf?_word (cs : Run isWord) (hr : Stops isWord r) :
    scanLeaf? (cs.text ++ r) = some (.word cs.text, r) := by
  have hrun := run?_append cs.all cs.ne_nil hr
  obtain ⟨c, t, hcs⟩ := List.exists_cons_of_ne_nil cs.ne_nil
  have hword : isWord c = true := cs.all c (by simp [hcs])
  unfold scanLeaf?
  split
  · next heq =>
    rw [hcs] at heq
    cases heq
    exact absurd hword (by decide)
  · next heq =>
    rw [hcs] at heq
    cases heq
    exact absurd hword (by decide)
  · rw [hrun, Option.map_some]

/-- A leaf in front of the cursor is what the scanner takes next. -/
theorem scanAtom_of_scanLeaf? {c : Char} (hblank : isBlank c = false) (hlow : c ≠ '<')
    (hhigh : c ≠ '>') (h : scanLeaf? (c :: t) = some (a, r)) :
    scanAtom (c :: t) = .ok (a, r) := by
  rw [scanAtom, if_neg (by simp [hblank]), if_neg hlow, if_neg hhigh, h]

/-- The scanner finds a derived atom again. -/
theorem scanAtom_text_append (a : AtomDerivation) (hr : Stops isWord r) :
    scanAtom (a.text ++ r) = .ok (a.atom, r) := by
  induction a with
  | hex ds =>
    exact scanAtom_of_scanLeaf? (by decide) (by decide) (by decide) (scanLeaf?_hex ds hr)
  | bin ds =>
    exact scanAtom_of_scanLeaf? (by decide) (by decide) (by decide) (scanLeaf?_bin ds hr)
  | word cs =>
    have hleaf := scanLeaf?_word cs hr
    obtain ⟨c, t, hcs⟩ := List.exists_cons_of_ne_nil cs.ne_nil
    have hword : isWord c = true := cs.all c (by simp [hcs])
    simp only [AtomDerivation.text, AtomDerivation.atom]
    rw [hcs, List.cons_append] at hleaf ⊢
    refine scanAtom_of_scanLeaf? (Text.isBlank_eq_false_of_isWord hword) ?_ ?_ hleaf
    · rintro rfl
      exact absurd hword (by decide)
    · rintro rfl
      exact absurd hword (by decide)
  | low gap a ih =>
    rw [AtomDerivation.text, List.cons_append, scanAtom, if_neg (by decide), if_pos rfl,
      List.append_assoc, scanAtom_append_of_blank gap.all_blank, ih]
    rfl
  | high gap a ih =>
    rw [AtomDerivation.text, List.cons_append, scanAtom, if_neg (by decide), if_neg (by decide),
      if_pos rfl, List.append_assoc, scanAtom_append_of_blank gap.all_blank, ih]
    rfl

theorem scanExpr_of_atom (ha : scanAtom t = .ok (a, r)) (ho : scanOperator? r = none) :
    scanExpr t = .ok (.atom a, r) := by
  rw [scanExpr]
  split
  · next h => rw [ha] at h; cases h
  · next h =>
    rw [ha] at h
    cases h
    split
    · rfl
    · next h => rw [ho] at h; cases h

theorem scanExpr_of_operator (ha : scanAtom t = .ok (a, r)) (ho : scanOperator? r = some (o, r')) :
    scanExpr t = (scanExpr r').map fun p => (.chain a o p.1, p.2) := by
  rw [scanExpr]
  split
  · next h => rw [ha] at h; cases h
  · next h =>
    rw [ha] at h
    cases h
    split
    · next h => rw [ho] at h; cases h
    · next h =>
      rw [ho] at h
      cases h
      rfl

/-- The scanner finds a derived expression again, behind any blanks. -/
theorem scanExpr_text_append (e : ExprDerivation) (hr : Stops isWord r)
    (ho : scanOperator? r = none) (hu : ∀ c ∈ u, isBlank c = true) :
    scanExpr (u ++ (e.text ++ r)) = .ok (e.expr, r) := by
  induction e generalizing u with
  | atom a =>
    refine scanExpr_of_atom ?_ ho
    rw [scanAtom_append_of_blank hu]
    exact scanAtom_text_append a hr
  | chain left before op after right ih =>
    -- Behind the left atom stands a blank or the operator, and neither continues a word.
    have hstop : Stops isWord (before.text ++ op.symbol :: (after.text ++ (right.text ++ r))) := by
      cases hb : before.text with
      | nil => simp
      | cons c b =>
        have hc := before.all_blank c (by simp [hb])
        simp [Text.isWord_eq_false_of_isBlank hc]
    have hatom : scanAtom (u ++ ((ExprDerivation.chain left before op after right).text ++ r)) =
        .ok (left.atom, before.text ++ op.symbol :: (after.text ++ (right.text ++ r))) := by
      rw [scanAtom_append_of_blank hu, ExprDerivation.text]
      simp only [List.append_assoc, List.cons_append]
      exact scanAtom_text_append left hstop
    have hop : scanOperator? (before.text ++ op.symbol :: (after.text ++ (right.text ++ r))) =
        some (op, after.text ++ (right.text ++ r)) := by
      rw [scanOperator?_append_of_blank before.all_blank, scanOperator?_symbol]
    rw [scanExpr_of_operator hatom hop, ih after.all_blank]
    rfl

theorem scanOperator?_eq_none_of_blank (hu : ∀ c ∈ u, isBlank c = true) :
    scanOperator? u = none := by
  rw [← List.append_nil u, scanOperator?_append_of_blank hu, scanOperator?]

theorem parse_text (d : Derivation) : parse d.text = .ok d.expr := by
  have hafter : Stops isWord d.after.text :=
    Text.stops_of_forall fun c hc => Text.isWord_eq_false_of_isBlank (d.after.all_blank c hc)
  have hscan : scanExpr d.text = .ok (d.expr, d.after.text) := by
    rw [Derivation.text, List.append_assoc]
    exact scanExpr_text_append d.body hafter (scanOperator?_eq_none_of_blank d.after.all_blank)
      d.before.all_blank
  rw [parse, hscan]
  simp only [Text.strip_eq_nil_iff.mpr d.after.all_blank, if_true]

end Complete

/-! ## What is accepted is derived -/

section Sound

variable {t r : Text}

/-- Blanks with one more in front. -/
def Gap.cons (c : Char) (hc : isBlank c = true) (g : Gap) : Gap :=
  ⟨c :: g.text, by simpa [hc] using g.all_blank⟩

theorem exists_derivation_of_scanLeaf? {x : Atom} (h : scanLeaf? t = some (x, r)) :
    ∃ a : AtomDerivation, a.atom = x ∧ t = a.text ++ r := by
  unfold scanLeaf? at h
  split at h <;> obtain ⟨⟨ds, r'⟩, hrun, heq⟩ := Option.map_eq_some_iff.mp h <;> cases heq <;>
    obtain ⟨rfl, hne, hall⟩ := eq_append_of_run?_eq_some hrun
  · exact ⟨.hex ⟨ds, hne, hall⟩, rfl, rfl⟩
  · exact ⟨.bin ⟨ds, hne, hall⟩, rfl, rfl⟩
  · exact ⟨.word ⟨ds, hne, hall⟩, rfl, rfl⟩

theorem exists_derivation_of_scanAtom {x : Atom} (h : scanAtom t = .ok (x, r)) :
    ∃ (g : Gap) (a : AtomDerivation), a.atom = x ∧ t = g.text ++ (a.text ++ r) := by
  induction t generalizing x with
  | nil => cases h
  | cons c t ih =>
    rw [scanAtom] at h
    split at h
    · next hc =>
      obtain ⟨g, a, rfl, rfl⟩ := ih h
      exact ⟨g.cons c hc, a, rfl, rfl⟩
    · split at h
      · next hc =>
        subst hc
        cases hs : scanAtom t with
        | error e => rw [hs] at h; cases h
        | ok p =>
          rw [hs] at h
          cases h
          obtain ⟨g, a, hx, rfl⟩ := ih hs
          exact ⟨.none, .low g a, by rw [AtomDerivation.atom, hx], by simp [AtomDerivation.text]⟩
      · split at h
        · next hc =>
          subst hc
          cases hs : scanAtom t with
          | error e => rw [hs] at h; cases h
          | ok p =>
            rw [hs] at h
            cases h
            obtain ⟨g, a, hx, rfl⟩ := ih hs
            exact ⟨.none, .high g a, by rw [AtomDerivation.atom, hx],
              by simp [AtomDerivation.text]⟩
        · split at h
          · next p hp =>
            cases h
            obtain ⟨a, rfl, ht⟩ := exists_derivation_of_scanLeaf? hp
            exact ⟨.none, a, rfl, ht⟩
          · cases h

theorem exists_gap_of_scanOperator? {o : Operator} (h : scanOperator? t = some (o, r)) :
    ∃ g : Gap, t = g.text ++ o.symbol :: r := by
  induction t with
  | nil => cases h
  | cons c t ih =>
    rw [scanOperator?] at h
    split at h
    · next hc =>
      obtain ⟨g, rfl⟩ := ih h
      exact ⟨g.cons c hc, rfl⟩
    · obtain ⟨o', ho, heq⟩ := Option.map_eq_some_iff.mp h
      cases heq
      exact ⟨.none, by rw [Operator.ofSymbol?_eq_some_iff.mp ho]; rfl⟩

theorem exists_derivation_of_scanExpr {x : Expr} (h : scanExpr t = .ok (x, r)) :
    ∃ (g : Gap) (e : ExprDerivation), e.expr = x ∧ t = g.text ++ (e.text ++ r) := by
  fun_induction scanExpr t generalizing x with
  | case1 t e ha => cases h
  | case2 t a r' ha ho =>
    cases h
    obtain ⟨g, a, rfl, ht⟩ := exists_derivation_of_scanAtom ha
    exact ⟨g, .atom a, rfl, ht⟩
  | case3 t a r' ha o r'' ho ih =>
    cases hs : scanExpr r'' with
    | error e => rw [hs] at h; cases h
    | ok p =>
      rw [hs] at h
      cases h
      obtain ⟨after, right, hx, hr''⟩ := ih hs
      obtain ⟨before, hr'⟩ := exists_gap_of_scanOperator? ho
      obtain ⟨g, left, hl, ht⟩ := exists_derivation_of_scanAtom ha
      refine ⟨g, .chain left before o after right, ?_, ?_⟩
      · rw [ExprDerivation.expr, hl, hx]
      · rw [ht, hr', hr'', ExprDerivation.text]
        simp only [List.append_assoc, List.cons_append]

theorem exists_derivation_of_parse {x : Expr} (h : parse t = .ok x) :
    ∃ d : Derivation, d.text = t ∧ d.expr = x := by
  unfold parse at h
  split at h
  · cases h
  · next e r hs =>
    split at h
    · next hblank =>
      cases h
      obtain ⟨before, body, hx, ht⟩ := exists_derivation_of_scanExpr hs
      refine ⟨⟨before, body, ⟨r, Text.strip_eq_nil_iff.mp hblank⟩⟩, ?_, hx⟩
      rw [ht, Derivation.text, List.append_assoc]
    · cases h

end Sound

/-! ## Both directions -/

/-- Reading a literal and deriving it are the same. -/
theorem parse_eq_ok_iff {t : Text} {x : Expr} :
    parse t = .ok x ↔ ∃ d : Derivation, d.text = t ∧ d.expr = x := by
  constructor
  · exact exists_derivation_of_parse
  · rintro ⟨d, rfl, rfl⟩
    exact parse_text d

theorem format_eq_ok_iff {t out : Text} {location : Option Location} {sourceLine : Option Text} :
    format t location sourceLine = .ok out ↔
      ∃ d : Derivation, d.text = t ∧ d.expr.render = out := by
  constructor
  · intro h
    unfold format at h
    split at h
    · next x hx =>
      cases h
      obtain ⟨d, ht, rfl⟩ := parse_eq_ok_iff.mp hx
      exact ⟨d, ht, rfl⟩
    · cases h
  · rintro ⟨d, rfl, rfl⟩
    rw [format, parse_text]

/-- A run of word characters is a literal and stands for itself. -/
theorem format_of_isWordRun {t : Text} (h : Text.IsWordRun t) (location : Option Location)
    (sourceLine : Option Text) : format t location sourceLine = .ok t := by
  have hderives : ∃ d : Derivation, d.text = t ∧ d.expr.render = t :=
    ⟨⟨.none, .atom (.word ⟨t, h.ne_nil, h.all_word⟩), .none⟩, List.append_nil t, rfl⟩
  exact format_eq_ok_iff.mpr hderives

/-- A text has at most one derivation. -/
theorem Derivation.text_injective : Function.Injective Derivation.text := by
  intro d d' h
  have hexpr : Except.ok (ε := Text) d.expr = .ok d'.expr := by
    rw [← parse_text d, ← parse_text d', h]
  exact eq_of_text_eq (Except.ok.inj hexpr) h

/-- The tokens determine the expression. -/
theorem Derivation.expr_eq_of_tokens_eq {d d' : Derivation} (h : d.tokens = d'.tokens) :
    d.expr = d'.expr := by
  have htext : d.tight.text = d'.tight.text := by rw [text_tight, text_tight, h]
  have htight := text_injective htext
  rw [← d.expr_tight, ← d'.expr_tight, htight]

/-- A literal is accepted exactly if the grammar derives it, by whatever cuts; the derivation is the
only one, and the result is what its expression renders to.  Blanks between the tokens do not
matter: derivations with the same tokens are accepted alike. -/
theorem format_accepts_exactly_grammar (t : Text) (location : Option Location)
    (sourceLine : Option Text) :
    (∀ out, format t location sourceLine = .ok out ↔
      ∃ d : Derivation, d.text = t ∧ d.expr.render = out) ∧
    (∀ d d' : Derivation, d.text = t → d'.text = t → d = d') ∧
    (∀ d d' : Derivation, d.text = t → d.tokens = d'.tokens →
      format d'.text location sourceLine = format t location sourceLine) := by
  refine ⟨fun out => format_eq_ok_iff, ?_, ?_⟩
  · rintro d d' rfl h
    exact Derivation.text_injective h.symm
  · rintro d d' rfl htokens
    rw [format, format, parse_text, parse_text, Derivation.expr_eq_of_tokens_eq htokens]

end AsmDispatch.Literal
