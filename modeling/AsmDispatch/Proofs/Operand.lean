import AsmDispatch.Proofs.Literal.Acceptance
import AsmDispatch.Proofs.Text.Strip
import AsmDispatch.Proofs.Text.Within
import AsmDispatch.Statement

/-!
# The shapes of operands

An operand is a literal with the marks of an addressing mode around it.  The reader looks for marks
only, and takes whatever stands between them for the literal, further parentheses and commas
included.  What keeps it from a wrong mode is that the grammar of literals knows none of the marks:
a text can be seen in several shapes, but at most one of them leaves a literal, and that is the one
in which the reader sees it.

## Main statements

* `Operand.seen_ofText`: the reader sees every operand in one of the shapes.
* `Operand.Layout.ofText_eq`: around a literal it sees the shape that was written.
* `Operand.shapes_exact`: which operands have a value, and what becomes of the others.
-/

namespace AsmDispatch

open Text (isBlank isWord strip stripEnd isOneLine lower Stops Within)
open Literal (Gap Run Derivation format)

/-! ## Literals and the blanks around them -/

namespace Literal

/-- The characters that literals are made of. -/
def isLiteralChar (c : Char) : Bool :=
  isBlank c || isWord c || ['<', '>', '$', '%', '+', '-', '*', '/'].contains c

theorem isLiteralChar_of_isBlank {c : Char} (h : isBlank c = true) : isLiteralChar c = true := by
  simp [isLiteralChar, h]

theorem isLiteralChar_of_isWord {c : Char} (h : isWord c = true) : isLiteralChar c = true := by
  simp [isLiteralChar, h]

theorem AtomDerivation.within_text (a : AtomDerivation) : Within isLiteralChar a.text := by
  induction a with
  | hex ds =>
    refine Text.within_cons.mpr ⟨by decide, fun c hc => ?_⟩
    exact isLiteralChar_of_isWord (isWord_of_isHexDigit (ds.all c hc))
  | bin ds =>
    refine Text.within_cons.mpr ⟨by decide, fun c hc => ?_⟩
    exact isLiteralChar_of_isWord (isWord_of_isHexDigit (isHexDigit_of_isBinDigit (ds.all c hc)))
  | word cs => exact fun c hc => isLiteralChar_of_isWord (cs.all c hc)
  | low gap a ih | high gap a ih =>
    have hgap : Within isLiteralChar gap.text := fun c hc =>
      isLiteralChar_of_isBlank (gap.all_blank c hc)
    exact Text.within_cons.mpr ⟨by decide, Text.within_append.mpr ⟨hgap, ih⟩⟩

theorem ExprDerivation.within_text (e : ExprDerivation) : Within isLiteralChar e.text := by
  induction e with
  | atom a => exact a.within_text
  | chain left before op after right ih =>
    have hgap (gap : Gap) : Within isLiteralChar gap.text := fun c hc =>
      isLiteralChar_of_isBlank (gap.all_blank c hc)
    have hop : isLiteralChar op.symbol = true := by cases op <;> decide
    simp only [text, Text.within_append, Text.within_cons]
    exact ⟨⟨left.within_text, hgap before⟩, hop, hgap after, ih⟩

/-- No mark of an addressing mode is part of a literal. -/
theorem Derivation.not_mem_text (d : Derivation) {c : Char} (hc : isLiteralChar c = false) :
    c ∉ d.text := by
  have hgap (gap : Gap) : Within isLiteralChar gap.text := fun c hc =>
    isLiteralChar_of_isBlank (gap.all_blank c hc)
  have hwithin : Within isLiteralChar d.text := by
    simp only [text, Text.within_append]
    exact ⟨⟨hgap d.before, d.body.within_text⟩, hgap d.after⟩
  intro hmem
  rw [hwithin c hmem] at hc
  cases hc

/-- The text ends with a character that is no blank. -/
def EndsSolid (t : Text) : Prop := ∃ u c, t = u ++ [c] ∧ isBlank c = false

theorem EndsSolid.append {t : Text} (h : EndsSolid t) (u : Text) : EndsSolid (u ++ t) := by
  obtain ⟨v, c, rfl, hc⟩ := h
  exact ⟨u ++ v, c, (List.append_assoc u v [c]).symm, hc⟩

theorem EndsSolid.stops_reverse {t : Text} (h : EndsSolid t) : Stops isBlank t.reverse := by
  obtain ⟨u, c, rfl, hc⟩ := h
  rw [List.reverse_append]
  exact Text.stops_cons.mpr hc

theorem Run.endsSolid {p : Char → Bool} (hp : ∀ c, p c = true → isWord c = true) (r : Run p) :
    EndsSolid r.text := by
  have hlast := r.all _ (List.getLast_mem r.ne_nil)
  exact ⟨r.text.dropLast, r.text.getLast r.ne_nil, (List.dropLast_append_getLast r.ne_nil).symm,
    Text.isBlank_eq_false_of_isWord (hp _ hlast)⟩

theorem AtomDerivation.endsSolid_text (a : AtomDerivation) : EndsSolid a.text := by
  induction a with
  | hex ds => exact (ds.endsSolid fun _ => isWord_of_isHexDigit).append ['$']
  | bin ds =>
    have hword (c : Char) (hc : isBinDigit c = true) : isWord c = true :=
      isWord_of_isHexDigit (isHexDigit_of_isBinDigit hc)
    exact (ds.endsSolid hword).append ['%']
  | word cs => exact cs.endsSolid fun _ => id
  | low gap a ih => exact ih.append ('<' :: gap.text)
  | high gap a ih => exact ih.append ('>' :: gap.text)

theorem ExprDerivation.endsSolid_text (e : ExprDerivation) : EndsSolid e.text := by
  induction e with
  | atom a => exact a.endsSolid_text
  | chain left before op after right ih =>
    have hright := ih.append (left.text ++ before.text ++ op.symbol :: after.text)
    simpa only [text, List.append_assoc, List.cons_append] using hright

theorem Derivation.strip_text (d : Derivation) : strip d.text = d.body.text := by
  have hstart := d.body.stopsBlank_text_append []
  rw [List.append_nil] at hstart
  rw [text, List.append_assoc]
  exact Text.strip_append_append d.before.all_blank d.after.all_blank hstart
    d.body.endsSolid_text.stops_reverse

theorem Derivation.text_ne_nil (d : Derivation) : d.text ≠ [] := by
  obtain ⟨u, c, hbody, -⟩ := d.body.endsSolid_text
  simp [text, hbody]

/-- Blanks around a literal make no difference. -/
theorem format_strip_eq_ok_iff {t v : Text} {location : Option Location}
    {sourceLine : Option Text} :
    format (strip t) location sourceLine = .ok v ↔ format t location sourceLine = .ok v := by
  constructor
  · intro h
    obtain ⟨d, hd, rfl⟩ := format_eq_ok_iff.mp h
    obtain ⟨u, w, hu, hw, ht⟩ := Text.exists_eq_append_strip_append t
    have hbody : d.body.text = strip t := by rw [← d.strip_text, hd, Text.strip_strip]
    refine format_eq_ok_iff.mpr ⟨⟨⟨u, hu⟩, d.body, ⟨w, hw⟩⟩, ?_, rfl⟩
    rw [Derivation.text, hbody, List.append_assoc, ← ht]
  · intro h
    obtain ⟨d, rfl, rfl⟩ := format_eq_ok_iff.mp h
    refine format_eq_ok_iff.mpr ⟨⟨.none, d.body, .none⟩, ?_, rfl⟩
    rw [d.strip_text, Derivation.text, Gap.text_none, List.nil_append, List.append_nil]

theorem exists_rest_of_format {t : Text} {location : Option Location} {f : Fault}
    (h : format t location = .error f) :
    ∃ rest, f = { cause := .illegalExpression t rest, location } := by
  unfold format at h
  split at h
  · cases h
  · next rest _ =>
    cases h
    exact ⟨rest, rfl⟩

end Literal

namespace Operand

/-! ## Shapes -/

/-- The marks of an addressing mode, with the blanks between them. -/
inductive Shape where
  | immediate
  | postIndexed (before after : Gap) (register : Run isWord)
  | preIndexed (before after : Gap) (register : Run isWord) (closing : Gap)
  | indirect
  | indexed (before after : Gap) (register : Run isWord)
  | absolute

namespace Shape

/-- The text in which the marks stand around a literal. -/
def around : Shape → Text → Text
  | .immediate, e => '#' :: e
  | .postIndexed before after register, e =>
    '(' :: (e ++ ')' :: (before.text ++ ',' :: (after.text ++ register.text)))
  | .preIndexed before after register closing, e =>
    '(' :: (e ++ (before.text ++ ',' :: (after.text ++ (register.text ++ (closing.text ++ [')'])))))
  | .indirect, e => '(' :: (e ++ [')'])
  | .indexed before after register, e =>
    e ++ (before.text ++ ',' :: (after.text ++ register.text))
  | .absolute, e => e

def suffix : Shape → Text
  | .immediate => "_immediate"
  | .postIndexed _ _ register | .preIndexed _ _ register _ => "_indirect_" ++ lower register.text
  | .indirect => "_indirect"
  | .indexed _ _ register => "_" ++ lower register.text
  | .absolute => "_absolute"

/-- The operand of a literal in the shape. -/
def operand : Shape → Text → Operand
  | .immediate, e => .immediate e
  | .postIndexed _ _ register, e => .postIndexed e register.text
  | .preIndexed _ _ register _, e => .preIndexed e register.text
  | .indirect, e => .indirect e
  | .indexed _ _ register, e => .indexed e register.text
  | .absolute, e => .absolute e

@[simp] theorem suffix_operand (s : Shape) (e : Text) : (s.operand e).suffix = s.suffix := by
  cases s <;> rfl

@[simp] theorem literal?_operand (s : Shape) (e : Text) : (s.operand e).literal? = some e := by
  cases s <;> rfl

theorem subset_around (s : Shape) (e : Text) : e ⊆ s.around e := by
  cases s with
  | immediate => exact List.subset_cons_self '#' e
  | postIndexed | preIndexed | indirect =>
    exact List.subset_cons_of_subset _ (List.subset_append_left e _)
  | indexed => exact List.subset_append_left e _
  | absolute => exact List.Subset.refl e

end Shape

/-- The text is seen in a shape, whatever stands between the marks. -/
def Seen (t : Text) (o : Operand) : Prop :=
  ∃ (s : Shape) (e : Text), s.around e = t ∧ o = s.operand (strip e)

/-! ## Finding the marks -/

theorem enclosed?_eq_some_iff {t u : Text} : enclosed? t = some u ↔ t = '(' :: (u ++ [')']) := by
  constructor
  · intro h
    unfold enclosed? at h
    split at h
    · next r =>
      split at h
      · next hlast =>
        cases h
        obtain ⟨v, rfl⟩ := List.getLast?_eq_some_iff.mp hlast
        rw [List.dropLast_concat]
      · cases h
    · cases h
  · rintro rfl
    simp [enclosed?]

theorem enclosed?_eq_none {t : Text} (h : '(' ∉ t) : enclosed? t = none := by
  unfold enclosed?
  split
  · exact absurd List.mem_cons_self h
  · rfl

/-- A comma and a word behind it are found again. -/
theorem beforeRegister?_append (u : Text) (gap : Gap) (register : Run isWord) :
    beforeRegister? (u ++ ',' :: (gap.text ++ register.text)) =
      some (stripEnd u, register.text) := by
  have hword : ∀ c ∈ register.text.reverse, isWord c = true := fun c hc =>
    register.all c (List.mem_reverse.mp hc)
  have hblank : ∀ c ∈ gap.text.reverse, isBlank c = true := fun c hc =>
    gap.all_blank c (List.mem_reverse.mp hc)
  -- In front of the word stands a blank or the comma, and neither makes the word longer.
  have hstop : Stops isWord (gap.text.reverse ++ ',' :: u.reverse) :=
    Text.stopsWord_append_of_blank hblank (Text.stops_cons.mpr (by decide))
  have hcomma : Stops isBlank (',' :: u.reverse) := Text.stops_cons.mpr (by decide)
  have hrev : (u ++ ',' :: (gap.text ++ register.text)).reverse =
      register.text.reverse ++ (gap.text.reverse ++ ',' :: u.reverse) := by simp
  unfold beforeRegister?
  rw [hrev, Text.takeWhile_append_stops hword hstop, Text.dropWhile_append_stops hword hstop,
    Text.dropWhile_append_stops hblank hcomma]
  obtain ⟨c, w, hw⟩ := List.exists_cons_of_ne_nil (List.reverse_ne_nil_iff.mpr register.ne_nil)
  have hback : (c :: w).reverse = register.text := by rw [← hw, List.reverse_reverse]
  rw [hw]
  simp only [hback, List.reverse_reverse]

theorem exists_of_beforeRegister? {t u w : Text} (h : beforeRegister? t = some (u, w)) :
    ∃ (before after : Gap) (register : Run isWord), register.text = w ∧
      t = u ++ (before.text ++ ',' :: (after.text ++ register.text)) := by
  unfold beforeRegister? at h
  split at h
  · next c w' r hword hcomma =>
    cases h
    obtain ⟨before, hbefore, hr⟩ := Text.exists_eq_stripEnd_append r.reverse
    have hall : ∀ d ∈ t.reverse.takeWhile isWord, isWord d = true :=
      List.all_eq_true.mp List.all_takeWhile
    have hblank : ∀ d ∈ (t.reverse.dropWhile isWord).takeWhile isBlank, isBlank d = true :=
      List.all_eq_true.mp List.all_takeWhile
    refine ⟨⟨before, hbefore⟩, ⟨((t.reverse.dropWhile isWord).takeWhile isBlank).reverse, ?_⟩,
      ⟨(c :: w').reverse, by simp, ?_⟩, rfl, ?_⟩
    · exact fun d hd => hblank d (List.mem_reverse.mp hd)
    · rw [← hword]
      exact fun d hd => hall d (List.mem_reverse.mp hd)
    · -- The three pieces of the reversed text, put together again.
      have hsplit : t.reverse =
          (c :: w') ++ ((t.reverse.dropWhile isWord).takeWhile isBlank ++ ',' :: r) := by
        rw [← hcomma, List.takeWhile_append_dropWhile, ← hword, List.takeWhile_append_dropWhile]
      calc t = t.reverse.reverse := t.reverse_reverse.symm
        _ = r.reverse ++ ',' :: (((t.reverse.dropWhile isWord).takeWhile isBlank).reverse ++
              (c :: w').reverse) := by
            conv_lhs => rw [hsplit]
            simp
        _ = _ := by
            conv_lhs => rw [hr]
            simp
  · cases h

theorem beforeRegister?_eq_none_of_comma {t : Text} (h : ',' ∉ t) : beforeRegister? t = none := by
  cases hbefore : beforeRegister? t with
  | none => rfl
  | some p =>
    obtain ⟨before, after, register, -, rfl⟩ := exists_of_beforeRegister? hbefore
    exact absurd (by simp) h

theorem beforeRegister?_eq_none_of_paren (u : Text) : beforeRegister? (u ++ [')']) = none := by
  have hword : (u ++ [')']).reverse.takeWhile isWord = [] := by
    rw [List.reverse_append]
    exact List.takeWhile_cons_of_neg (by decide)
  unfold beforeRegister?
  rw [hword]

/-! ## Whatever is read is seen in a shape -/

section Seen

variable {t : Text} {o : Operand}

theorem seen_of_postIndexed? (h : postIndexed? t = some o) : Seen t o := by
  obtain ⟨⟨outer, w⟩, hregister, hrest⟩ := Option.bind_eq_some_iff.mp h
  obtain ⟨e, henclosed, ho⟩ := Option.bind_eq_some_iff.mp hrest
  split at ho
  · cases ho
    obtain ⟨before, after, register, rfl, rfl⟩ := exists_of_beforeRegister? hregister
    obtain rfl := enclosed?_eq_some_iff.mp henclosed
    exact ⟨.postIndexed before after register, e, by simp [Shape.around], rfl⟩
  · cases ho

theorem seen_of_preIndexed? (h : preIndexed? t = some o) : Seen t o := by
  obtain ⟨inner, henclosed, hrest⟩ := Option.bind_eq_some_iff.mp h
  obtain ⟨⟨e, w⟩, hregister, ho⟩ := Option.bind_eq_some_iff.mp hrest
  simp only at ho
  split at ho
  · cases ho
    obtain ⟨before, after, register, rfl, hinner⟩ := exists_of_beforeRegister? hregister
    obtain ⟨closing, hclosing, hend⟩ := Text.exists_eq_stripEnd_append inner
    refine ⟨.preIndexed before after register ⟨closing, hclosing⟩, e, ?_, rfl⟩
    rw [enclosed?_eq_some_iff.mp henclosed, hend, hinner]
    simp [Shape.around]
  · cases ho

theorem seen_of_indirect? (h : indirect? t = some o) : Seen t o := by
  obtain ⟨e, henclosed, ho⟩ := Option.bind_eq_some_iff.mp h
  split at ho
  · cases ho
    exact ⟨.indirect, e, (enclosed?_eq_some_iff.mp henclosed).symm, rfl⟩
  · cases ho

theorem seen_of_indexed? (h : indexed? t = some o) : Seen t o := by
  obtain ⟨⟨e, w⟩, hregister, ho⟩ := Option.bind_eq_some_iff.mp h
  simp only at ho
  split at ho
  · cases ho
    obtain ⟨before, after, register, rfl, ht⟩ := exists_of_beforeRegister? hregister
    exact ⟨.indexed before after register, e, ht.symm, rfl⟩
  · cases ho

/-- Every operand is seen in a shape. -/
theorem seen_ofText (hne : strip t ≠ []) : Seen (strip t) (ofText t) := by
  unfold ofText
  split
  · next hnil => exact absurd hnil hne
  · next r hhash => exact ⟨.immediate, r, hhash.symm, rfl⟩
  · cases ho : (postIndexed? (strip t) <|> preIndexed? (strip t) <|> indirect? (strip t) <|>
        indexed? (strip t)) with
    | none => exact ⟨.absolute, strip t, rfl, by rw [Text.strip_strip]; rfl⟩
    | some o =>
      simp only [Option.orElse_eq_orElse, Option.orElse_eq_or, Option.or_eq_some_iff] at ho
      rcases ho with ho | ⟨-, ho | ⟨-, ho | ⟨-, ho⟩⟩⟩
      · exact seen_of_postIndexed? ho
      · exact seen_of_preIndexed? ho
      · exact seen_of_indirect? ho
      · exact seen_of_indexed? ho

end Seen

/-! ## What was written is read -/

section Read

variable {t e : Text}

theorem isOneLine_eq_true (h : '\n' ∉ t) : isOneLine t = true := by simpa [isOneLine] using h

theorem postIndexed?_around (before after : Gap) (register : Run isWord) (he : '\n' ∉ e) :
    postIndexed? ((Shape.postIndexed before after register).around e) =
      some (.postIndexed (strip e) register.text) := by
  have houter : stripEnd ('(' :: (e ++ ')' :: before.text)) = '(' :: (e ++ [')']) := by
    rw [← List.cons_append, Text.stripEnd_append_cons (by decide),
      Text.stripEnd_eq_nil_iff.mpr before.all_blank, List.cons_append]
  have hregister : beforeRegister? ((Shape.postIndexed before after register).around e) =
      some ('(' :: (e ++ [')']), register.text) := by
    rw [← houter, ← beforeRegister?_append _ after register]
    simp [Shape.around]
  simp [postIndexed?, hregister, enclosed?_eq_some_iff.mpr rfl, isOneLine_eq_true he]

theorem preIndexed?_around (before after : Gap) (register : Run isWord) (closing : Gap)
    (he : '\n' ∉ e) :
    preIndexed? ((Shape.preIndexed before after register closing).around e) =
      some (.preIndexed (strip e) register.text) := by
  have henclosed : enclosed? ((Shape.preIndexed before after register closing).around e) =
      some (e ++ before.text ++ ',' :: (after.text ++ register.text) ++ closing.text) := by
    rw [enclosed?_eq_some_iff]
    simp [Shape.around]
  have hsolid : Literal.EndsSolid (e ++ before.text ++ ',' :: (after.text ++ register.text)) := by
    have hword := (register.endsSolid fun _ => id).append (e ++ before.text ++ ',' :: after.text)
    simpa only [List.append_assoc, List.cons_append] using hword
  have hend : stripEnd (e ++ before.text ++ ',' :: (after.text ++ register.text) ++ closing.text) =
      e ++ before.text ++ ',' :: (after.text ++ register.text) := by
    rw [Text.stripEnd_append_of_blank closing.all_blank, Text.stripEnd_eq_self hsolid.stops_reverse]
  have hline : '\n' ∉ stripEnd e := fun hmem => he (Text.stripEnd_subset e hmem)
  simp only [preIndexed?, henclosed, Option.bind_eq_bind, Option.bind_some, hend,
    beforeRegister?_append, Text.stripEnd_append_of_blank before.all_blank, isOneLine_eq_true hline,
    if_true, Text.strip_stripEnd, Option.pure_def]

theorem indirect?_around (he : '\n' ∉ e) :
    indirect? (Shape.indirect.around e) = some (.indirect (strip e)) := by
  have henclosed : enclosed? (Shape.indirect.around e) = some e := enclosed?_eq_some_iff.mpr rfl
  simp [indirect?, henclosed, isOneLine_eq_true he]

theorem indexed?_around (before after : Gap) (register : Run isWord) (he : '\n' ∉ e) :
    indexed? ((Shape.indexed before after register).around e) =
      some (.indexed (strip e) register.text) := by
  have hregister : beforeRegister? ((Shape.indexed before after register).around e) =
      some (stripEnd e, register.text) := by
    rw [← Text.stripEnd_append_of_blank before.all_blank, ← beforeRegister?_append _ after register]
    simp [Shape.around]
  have hline : '\n' ∉ stripEnd e := fun hmem => he (Text.stripEnd_subset e hmem)
  simp [indexed?, hregister, isOneLine_eq_true hline]

/-- A text that ends with a parenthesis has no register behind it. -/
theorem postIndexed?_eq_none_of_closing {u : Text} (h : t = u ++ [')']) :
    postIndexed? t = none := by
  rw [h]
  simp [postIndexed?, beforeRegister?_eq_none_of_paren]

theorem postIndexed?_eq_none (h : '(' ∉ t) : postIndexed? t = none := by
  cases hregister : beforeRegister? t with
  | none => simp [postIndexed?, hregister]
  | some p =>
    obtain ⟨outer, w⟩ := p
    obtain ⟨before, after, register, rfl, rfl⟩ := exists_of_beforeRegister? hregister
    have houter : '(' ∉ outer := fun hmem => h (List.mem_append_left _ hmem)
    simp [postIndexed?, hregister, enclosed?_eq_none houter]

theorem preIndexed?_eq_none (h : '(' ∉ t) : preIndexed? t = none := by
  simp [preIndexed?, enclosed?_eq_none h]

theorem indirect?_eq_none (h : '(' ∉ t) : indirect? t = none := by
  simp [indirect?, enclosed?_eq_none h]

/-- Without a comma inside the parentheses there is no register inside them. -/
theorem preIndexed?_eq_none_of_comma (h : ',' ∉ e) :
    preIndexed? (Shape.indirect.around e) = none := by
  have henclosed : enclosed? (Shape.indirect.around e) = some e := enclosed?_eq_some_iff.mpr rfl
  have hcomma : ',' ∉ stripEnd e := fun hmem => h (Text.stripEnd_subset e hmem)
  simp [preIndexed?, henclosed, beforeRegister?_eq_none_of_comma hcomma]

theorem indexed?_eq_none (h : ',' ∉ t) : indexed? t = none := by
  simp [indexed?, beforeRegister?_eq_none_of_comma h]

/-- The shapes are tried in turn, unless the first character decides. -/
theorem ofText_eq_getD {u : Text} (h : u = strip t) (hne : u ≠ []) (hhash : u.head? ≠ some '#') :
    ofText t = (postIndexed? u <|> preIndexed? u <|> indirect? u <|> indexed? u).getD
      (.absolute u) := by
  unfold ofText
  rw [← h]
  split
  · exact absurd rfl hne
  · exact absurd rfl hhash
  · rfl

end Read

/-- A literal of the grammar, with the marks of a mode around it. -/
structure Layout where
  shape : Shape
  literal : Derivation

namespace Layout

def text (l : Layout) : Text := l.shape.around l.literal.text

def operand (l : Layout) : Operand := l.shape.operand (strip l.literal.text)

/-- An operand is read as it was written.  The shapes that are tried before the right one do not
fit, since their marks cannot be part of the literal. -/
theorem ofText_eq (l : Layout) {t : Text} (hfeed : '\n' ∉ t) (h : l.text = strip t) :
    ofText t = l.operand := by
  obtain ⟨s, d⟩ := l
  change s.around d.text = strip t at h
  change ofText t = s.operand (strip d.text)
  have hline : '\n' ∉ d.text := fun hmem =>
    hfeed (Text.strip_subset t (h ▸ s.subset_around d.text hmem))
  have hopen : '(' ∉ d.text := d.not_mem_text (by decide)
  have hcomma : ',' ∉ d.text := d.not_mem_text (by decide)
  have hhash : '#' ∉ d.text := d.not_mem_text (by decide)
  cases s with
  | immediate =>
    unfold ofText
    rw [← h]
    rfl
  | postIndexed before after register =>
    rw [ofText_eq_getD h (List.cons_ne_nil _ _) (by simp [Shape.around]),
      postIndexed?_around before after register hline]
    rfl
  | preIndexed before after register closing =>
    have hpost : postIndexed? ((Shape.preIndexed before after register closing).around d.text) =
        none := by
      refine postIndexed?_eq_none_of_closing (u := '(' :: (d.text ++ (before.text ++
        ',' :: (after.text ++ (register.text ++ closing.text))))) ?_
      simp [Shape.around]
    rw [ofText_eq_getD h (List.cons_ne_nil _ _) (by simp [Shape.around]), hpost,
      preIndexed?_around before after register closing hline]
    rfl
  | indirect =>
    have hpost : postIndexed? (Shape.indirect.around d.text) = none :=
      postIndexed?_eq_none_of_closing (u := '(' :: d.text) rfl
    rw [ofText_eq_getD h (List.cons_ne_nil _ _) (by simp [Shape.around]), hpost,
      preIndexed?_eq_none_of_comma hcomma, indirect?_around hline]
    rfl
  | indexed before after register =>
    have hmark {c : Char} (hc : isBlank c = false) (hw : isWord c = false) (hne : c ≠ ',')
        (hd : c ∉ d.text) : c ∉ (Shape.indexed before after register).around d.text := by
      simp only [Shape.around, List.mem_append, List.mem_cons, not_or]
      exact ⟨hd, before.not_mem hc, hne, after.not_mem hc, register.not_mem hw⟩
    have hopen' := hmark (c := '(') (by decide) (by decide) (by decide) hopen
    have hhash' := hmark (c := '#') (by decide) (by decide) (by decide) hhash
    rw [ofText_eq_getD h (by simp [Shape.around]) fun hhead => hhash' (List.mem_of_mem_head? hhead),
      postIndexed?_eq_none hopen', preIndexed?_eq_none hopen', indirect?_eq_none hopen',
      indexed?_around before after register hline]
    rfl
  | absolute =>
    rw [ofText_eq_getD h d.text_ne_nil fun hhead => hhash (List.mem_of_mem_head? hhead)]
    change Option.getD (postIndexed? d.text <|> preIndexed? d.text <|> indirect? d.text <|>
      indexed? d.text) (.absolute d.text) = .absolute (strip d.text)
    rw [postIndexed?_eq_none hopen, preIndexed?_eq_none hopen, indirect?_eq_none hopen,
      indexed?_eq_none hcomma]
    change Operand.absolute d.text = .absolute (strip d.text)
    rw [show d.text = strip t from h, Text.strip_strip]

theorem format_eq (l : Layout) (location : Option Location) :
    format (strip l.literal.text) location = .ok l.literal.expr.render :=
  Literal.format_strip_eq_ok_iff.mpr (Literal.format_eq_ok_iff.mpr ⟨l.literal, rfl, rfl⟩)

end Layout

/-- An operand whose literal has a value was written in a shape. -/
theorem exists_layout {t literal v : Text} {location : Option Location} (hne : strip t ≠ [])
    (hliteral : (ofText t).literal? = some literal) (hv : format literal location = .ok v) :
    ∃ l : Layout, l.text = strip t := by
  obtain ⟨s, e, ht, ho⟩ := seen_ofText hne
  rw [ho, Shape.literal?_operand] at hliteral
  cases hliteral
  obtain ⟨d, rfl, -⟩ := Literal.format_eq_ok_iff.mp (Literal.format_strip_eq_ok_iff.mp hv)
  exact ⟨⟨s, d⟩, ht⟩

end Operand

/-! ## Instructions with an addressing mode -/

namespace Instruction

variable {h : Host} {symbols : Symbols} {location : Option Location} {i : Instruction}

/-- The addressing mode of the operand names the helper. -/
def IsAddressed (h : Host) (i : Instruction) : Prop :=
  i.family h = .loadStore ∨ i.family h = .arithmetic

instance (h : Host) (i : Instruction) : Decidable (i.IsAddressed h) :=
  inferInstanceAs (Decidable (_ ∨ _))

theorem statement_of_isAddressed (hi : i.IsAddressed h) :
    i.statement h symbols location = (i.addressed location).map .plain := by
  have hmap : (do return .plain (← i.addressed location)) =
      (i.addressed location).map Statement.plain := by
    cases i.addressed location <;> rfl
  unfold statement
  rcases hi with hi | hi <;> rw [hi, ← hmap]

theorem addressed_of_literal {literal : Text}
    (hliteral : (Operand.ofText i.operand).literal? = some literal) :
    i.addressed location = (format literal location).map
      (helper (i.mnemonic ++ (Operand.ofText i.operand).suffix)) := by
  simp only [addressed, hliteral]
  cases format literal location <;> rfl

end Instruction

namespace Operand

/-- Which operands have a value.  Those are the operands that are a literal of the grammar in one of
the shapes, and then only one operand can be seen in them; the shape gives the suffix and the
literal gives the value.  An instruction with any other operand has no statement: it ends at an
illegal expression. -/
theorem shapes_exact (t : Text) (hfeed : '\n' ∉ t) (hne : strip t ≠ [])
    (location : Option Location) :
    ((∃ literal v, (ofText t).literal? = some literal ∧ format literal location = .ok v) ↔
      ∃! o : Operand, ∃ l : Layout, l.text = strip t ∧ l.operand = o) ∧
    (∀ l : Layout, l.text = strip t →
      ofText t = l.operand ∧ (ofText t).suffix = l.shape.suffix ∧
      ∃ literal, (ofText t).literal? = some literal ∧
        format literal location = format l.literal.text location ∧
        format l.literal.text location = .ok l.literal.expr.render) ∧
    (∀ (h : Host) (symbols : Symbols) (i : Instruction), i.IsAddressed h → i.operand = t →
      (∀ l : Layout, l.text = strip t →
        i.statement h symbols location = .ok (.plain
          (Instruction.helper (i.mnemonic ++ l.shape.suffix) l.literal.expr.render))) ∧
      ((∀ l : Layout, l.text ≠ strip t) →
        ∃ literal rest, (ofText t).literal? = some literal ∧ i.statement h symbols location =
          .error { cause := .illegalExpression literal rest, location })) := by
  have hread (l : Layout) (hl : l.text = strip t) : (ofText t).literal? =
      some (strip l.literal.text) ∧ (ofText t).suffix = l.shape.suffix := by
    rw [l.ofText_eq hfeed hl]
    exact ⟨l.shape.literal?_operand _, l.shape.suffix_operand _⟩
  refine ⟨⟨?_, ?_⟩, ?_, ?_⟩
  · rintro ⟨literal, v, hliteral, hv⟩
    obtain ⟨l, hl⟩ := exists_layout hne hliteral hv
    refine ⟨ofText t, ⟨l, hl, (l.ofText_eq hfeed hl).symm⟩, ?_⟩
    rintro o ⟨l', hl', rfl⟩
    exact (l'.ofText_eq hfeed hl').symm
  · rintro ⟨o, ⟨l, hl, -⟩, -⟩
    exact ⟨strip l.literal.text, l.literal.expr.render, (hread l hl).1, l.format_eq location⟩
  · intro l hl
    have hv := Literal.format_strip_eq_ok_iff.mp (l.format_eq location)
    refine ⟨l.ofText_eq hfeed hl, (hread l hl).2, strip l.literal.text, (hread l hl).1, ?_, hv⟩
    rw [l.format_eq, hv]
  · rintro h symbols i hi rfl
    constructor
    · intro l hl
      rw [Instruction.statement_of_isAddressed hi, Instruction.addressed_of_literal (hread l hl).1,
        l.format_eq, (hread l hl).2]
      rfl
    · intro hno
      obtain ⟨s, e, -, ho⟩ := seen_ofText hne
      have hliteral : (ofText i.operand).literal? = some (strip e) := by
        rw [ho, Shape.literal?_operand]
      cases hv : format (strip e) location with
      | ok v =>
        obtain ⟨l, hl⟩ := exists_layout hne hliteral hv
        exact absurd hl (hno l)
      | error f =>
        obtain ⟨rest, rfl⟩ := Literal.exists_rest_of_format hv
        refine ⟨strip e, rest, hliteral, ?_⟩
        rw [Instruction.statement_of_isAddressed hi, Instruction.addressed_of_literal hliteral, hv]
        rfl

/-- A selected byte and a numeral, with blanks wherever they may stand. -/
def spacedLayout : Layout where
  shape := .postIndexed ⟨[' '], List.all_eq_true.mp rfl⟩ ⟨['\t'], List.all_eq_true.mp rfl⟩
    ⟨['Y'], List.cons_ne_nil _ _, List.all_eq_true.mp rfl⟩
  literal :=
    { before := ⟨[' '], List.all_eq_true.mp rfl⟩
      body := .chain
        (.low ⟨[' '], List.all_eq_true.mp rfl⟩
          (.word ⟨['T', 'a', 'b'], List.cons_ne_nil _ _, List.all_eq_true.mp rfl⟩))
        .none .add ⟨[' '], List.all_eq_true.mp rfl⟩
        (.atom (.hex ⟨['1', 'F'], List.cons_ne_nil _ _, List.all_eq_true.mp rfl⟩))
      after := .none }

def spacedLoad : Instruction := { mnemonic := "LDA", operand := " ( < Tab+ $1F) ,\tY" }

theorem shapes_exact_of_spaced :
    '\n' ∉ spacedLoad.operand ∧ strip spacedLoad.operand ≠ [] ∧
      spacedLayout.text = strip spacedLoad.operand ∧ spacedLoad.IsAddressed .python ∧
      (∃! o : Operand, ∃ l : Layout, l.text = strip spacedLoad.operand ∧ l.operand = o) ∧
      spacedLoad.statement .python {} none = .ok (.plain "LDA_indirect_y(LO(Tab) + 0x1f)") := by
  have hfeed : '\n' ∉ spacedLoad.operand := by decide +kernel
  have hne : strip spacedLoad.operand ≠ [] := by decide +kernel
  have htext : spacedLayout.text = strip spacedLoad.operand := by decide +kernel
  have hi : spacedLoad.IsAddressed .python := by decide +kernel
  have hcall : Instruction.helper (spacedLoad.mnemonic ++ spacedLayout.shape.suffix)
      spacedLayout.literal.expr.render = "LDA_indirect_y(LO(Tab) + 0x1f)" := by decide +kernel
  obtain ⟨hvalue, hread, hstatement⟩ := shapes_exact spacedLoad.operand hfeed hne none
  obtain ⟨-, -, literal, hliteral, hsame, hv⟩ := hread spacedLayout htext
  refine ⟨hfeed, hne, htext, hi, hvalue.mp ⟨literal, _, hliteral, hsame.trans hv⟩, ?_⟩
  rw [← hcall]
  exact (hstatement .python {} spacedLoad hi rfl).1 spacedLayout htext

end Operand

end AsmDispatch
