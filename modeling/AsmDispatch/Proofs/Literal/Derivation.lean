import AsmDispatch.Proofs.Text.Class

/-!
# Derivations of literals

The grammar of literals, as trees that keep every character of the text:

    literal := blank* expr blank*
    expr    := atom (blank* op blank* expr)?
    atom    := ('<' | '>') blank* atom | '$' hexdigit+ | '%' bindigit+ | wordchar+

A derivation may cut a run of characters anywhere; nothing here says that a run is the longest one.
`text` is the literal that a derivation derives, `expr` and `atom` forget the blanks, and `tokens`
are the pieces of the text between which blanks may stand.

## Main statements

* `AtomDerivation.eq_of_text_append_eq`, `ExprDerivation.eq_of_text_append_eq`: text and expression
  together determine the derivation, since no token starts with a blank.
* `Derivation.tight`: the derivation of the tokens without any blanks.
-/

namespace AsmDispatch.Literal

open Text (isBlank isWord Stops stops_cons append_inj_of_stops)

/-- Blanks between tokens, if any. -/
@[ext]
structure Gap where
  text : Text
  all_blank : ∀ c ∈ text, isBlank c = true

/-- One or more characters of a class. -/
@[ext]
structure Run (p : Char → Bool) where
  text : Text
  ne_nil : text ≠ []
  all : ∀ c ∈ text, p c = true

/-- No blanks. -/
def Gap.none : Gap := ⟨[], by simp⟩

@[simp] theorem Gap.text_none : Gap.none.text = [] := rfl

theorem Gap.not_mem (g : Gap) {c : Char} (hc : isBlank c = false) : c ∉ g.text := by
  intro hmem
  rw [g.all_blank c hmem] at hc
  cases hc

theorem Run.not_mem {p : Char → Bool} (r : Run p) {c : Char} (hc : p c = false) : c ∉ r.text := by
  intro hmem
  rw [r.all c hmem] at hc
  cases hc

/-- Blanks in front of a text that does not start with one are determined. -/
theorem Gap.eq_of_text_append_eq {g g' : Gap} {r r' : Text} (hr : Stops isBlank r)
    (hr' : Stops isBlank r') (h : g.text ++ r = g'.text ++ r') : g = g' ∧ r = r' := by
  obtain ⟨hg, hr⟩ := append_inj_of_stops g.all_blank g'.all_blank hr hr' h
  exact ⟨Gap.ext hg, hr⟩

/-! ## Atoms -/

inductive AtomDerivation where
  | hex (digits : Run isHexDigit)
  | bin (digits : Run isBinDigit)
  | word (chars : Run isWord)
  | low (gap : Gap) (of : AtomDerivation)
  | high (gap : Gap) (of : AtomDerivation)

namespace AtomDerivation

def text : AtomDerivation → Text
  | .hex ds => '$' :: ds.text
  | .bin ds => '%' :: ds.text
  | .word cs => cs.text
  | .low gap a => '<' :: (gap.text ++ a.text)
  | .high gap a => '>' :: (gap.text ++ a.text)

def atom : AtomDerivation → Atom
  | .hex ds => .hex ds.text
  | .bin ds => .bin ds.text
  | .word cs => .word cs.text
  | .low _ a => .low a.atom
  | .high _ a => .high a.atom

def tokens : AtomDerivation → List Text
  | .hex ds => ['$' :: ds.text]
  | .bin ds => ['%' :: ds.text]
  | .word cs => [cs.text]
  | .low _ a => ['<'] :: a.tokens
  | .high _ a => ['>'] :: a.tokens

/-- The derivation without its blanks. -/
def tight : AtomDerivation → AtomDerivation
  | .hex ds => .hex ds
  | .bin ds => .bin ds
  | .word cs => .word cs
  | .low _ a => .low .none a.tight
  | .high _ a => .high .none a.tight

@[simp] theorem atom_tight (a : AtomDerivation) : a.tight.atom = a.atom := by
  induction a with
  | hex | bin | word => rfl
  | low gap a ih | high gap a ih => simp [tight, atom, ih]

theorem text_tight (a : AtomDerivation) : a.tight.text = a.tokens.flatten := by
  induction a with
  | hex | bin | word => simp [tight, text, tokens]
  | low gap a ih | high gap a ih => simp [tight, text, tokens, ih]

/-- An atom starts with a character that is no blank and no operator. -/
theorem stops_text_append (a : AtomDerivation) (r : Text) :
    Stops (fun c => isBlank c || (Operator.ofSymbol? c).isSome) (a.text ++ r) := by
  cases a with
  | hex | bin | low | high => exact stops_cons.mpr (by decide)
  | word cs =>
    obtain ⟨c, t, hcs⟩ := List.exists_cons_of_ne_nil cs.ne_nil
    have hword : isWord c = true := cs.all c (by simp [hcs])
    have hop : Operator.ofSymbol? c = Option.none := by
      cases ho : Operator.ofSymbol? c with
      | none => rfl
      | some o =>
        rw [Operator.ofSymbol?_eq_some_iff.mp ho, Operator.isWord_symbol] at hword
        cases hword
    rw [text, hcs, List.cons_append, stops_cons, Text.isBlank_eq_false_of_isWord hword, hop]
    rfl

theorem stopsBlank_text_append (a : AtomDerivation) (r : Text) : Stops isBlank (a.text ++ r) :=
  (a.stops_text_append r).mono fun c hc => by simp [hc]

/-- Of the derivations of one atom only one gives a text. -/
theorem eq_of_text_append_eq {a a' : AtomDerivation} {r r' : Text} (ha : a.atom = a'.atom)
    (h : a.text ++ r = a'.text ++ r') : a = a' ∧ r = r' := by
  induction a generalizing a' with
  | hex ds =>
    cases a' with
    | hex ds' =>
      obtain rfl : ds = ds' := Run.ext (by simpa [atom] using ha)
      exact ⟨rfl, List.append_cancel_left h⟩
    | _ => cases ha
  | bin ds =>
    cases a' with
    | bin ds' =>
      obtain rfl : ds = ds' := Run.ext (by simpa [atom] using ha)
      exact ⟨rfl, List.append_cancel_left h⟩
    | _ => cases ha
  | word cs =>
    cases a' with
    | word cs' =>
      obtain rfl : cs = cs' := Run.ext (by simpa [atom] using ha)
      exact ⟨rfl, List.append_cancel_left h⟩
    | _ => cases ha
  | low gap a ih =>
    cases a' with
    | low gap' a' =>
      simp only [text, List.cons_append, List.append_assoc, List.cons.injEq, true_and] at h
      obtain ⟨rfl, hrest⟩ := Gap.eq_of_text_append_eq (a.stopsBlank_text_append r)
        (a'.stopsBlank_text_append r') h
      obtain ⟨rfl, rfl⟩ := ih (by simpa [atom] using ha) hrest
      exact ⟨rfl, rfl⟩
    | _ => cases ha
  | high gap a ih =>
    cases a' with
    | high gap' a' =>
      simp only [text, List.cons_append, List.append_assoc, List.cons.injEq, true_and] at h
      obtain ⟨rfl, hrest⟩ := Gap.eq_of_text_append_eq (a.stopsBlank_text_append r)
        (a'.stopsBlank_text_append r') h
      obtain ⟨rfl, rfl⟩ := ih (by simpa [atom] using ha) hrest
      exact ⟨rfl, rfl⟩
    | _ => cases ha

end AtomDerivation

/-! ## Expressions -/

inductive ExprDerivation where
  | atom (a : AtomDerivation)
  | chain (left : AtomDerivation) (before : Gap) (op : Operator) (after : Gap)
      (right : ExprDerivation)

namespace ExprDerivation

def text : ExprDerivation → Text
  | .atom a => a.text
  | .chain left before op after right =>
    left.text ++ before.text ++ op.symbol :: (after.text ++ right.text)

def expr : ExprDerivation → Expr
  | .atom a => .atom a.atom
  | .chain left _ op _ right => .chain left.atom op right.expr

def tokens : ExprDerivation → List Text
  | .atom a => a.tokens
  | .chain left _ op _ right => left.tokens ++ [op.symbol] :: right.tokens

/-- The derivation without its blanks. -/
def tight : ExprDerivation → ExprDerivation
  | .atom a => .atom a.tight
  | .chain left _ op _ right => .chain left.tight .none op .none right.tight

@[simp] theorem expr_tight (e : ExprDerivation) : e.tight.expr = e.expr := by
  induction e with
  | atom a => simp [tight, expr]
  | chain left before op after right ih => simp [tight, expr, ih]

theorem text_tight (e : ExprDerivation) : e.tight.text = e.tokens.flatten := by
  induction e with
  | atom a => simp [tight, text, tokens, AtomDerivation.text_tight]
  | chain left before op after right ih =>
    simp [tight, text, tokens, AtomDerivation.text_tight, ih]

theorem stopsBlank_text_append (e : ExprDerivation) (r : Text) : Stops isBlank (e.text ++ r) := by
  cases e with
  | atom a => exact a.stopsBlank_text_append r
  | chain left before op after right =>
    simp only [text, List.append_assoc]
    exact left.stopsBlank_text_append _

/-- Of the derivations of one expression only one gives a text. -/
theorem eq_of_text_append_eq {e e' : ExprDerivation} {r r' : Text} (he : e.expr = e'.expr)
    (h : e.text ++ r = e'.text ++ r') : e = e' ∧ r = r' := by
  induction e generalizing e' with
  | atom a =>
    cases e' with
    | atom a' =>
      obtain ⟨rfl, rfl⟩ := AtomDerivation.eq_of_text_append_eq (by simpa [expr] using he) h
      exact ⟨rfl, rfl⟩
    | chain => cases he
  | chain left before op after right ih =>
    cases e' with
    | atom => cases he
    | chain left' before' op' after' right' =>
      simp only [expr, Expr.chain.injEq] at he
      obtain ⟨hleft, rfl, hright⟩ := he
      simp only [text, List.append_assoc, List.cons_append] at h
      obtain ⟨rfl, hbefore⟩ := AtomDerivation.eq_of_text_append_eq hleft h
      obtain ⟨rfl, hop⟩ := Gap.eq_of_text_append_eq (stops_cons.mpr op.isBlank_symbol)
        (stops_cons.mpr op.isBlank_symbol) hbefore
      obtain ⟨rfl, hrest⟩ := Gap.eq_of_text_append_eq (right.stopsBlank_text_append r)
        (right'.stopsBlank_text_append r') (List.cons.inj hop).2
      obtain ⟨rfl, rfl⟩ := ih hright hrest
      exact ⟨rfl, rfl⟩

end ExprDerivation

/-! ## Literals -/

structure Derivation where
  before : Gap
  body : ExprDerivation
  after : Gap

namespace Derivation

def text (d : Derivation) : Text := d.before.text ++ d.body.text ++ d.after.text

def expr (d : Derivation) : Expr := d.body.expr

def tokens (d : Derivation) : List Text := d.body.tokens

/-- The derivation without its blanks. -/
def tight (d : Derivation) : Derivation := ⟨.none, d.body.tight, .none⟩

@[simp] theorem expr_tight (d : Derivation) : d.tight.expr = d.expr := d.body.expr_tight

theorem text_tight (d : Derivation) : d.tight.text = d.tokens.flatten := by
  simp [tight, text, tokens, ExprDerivation.text_tight]

/-- Of the derivations of one expression only one gives a text. -/
theorem eq_of_text_eq {d d' : Derivation} (he : d.expr = d'.expr) (h : d.text = d'.text) :
    d = d' := by
  obtain ⟨before, body, after⟩ := d
  obtain ⟨before', body', after'⟩ := d'
  simp only [text, List.append_assoc] at h
  obtain ⟨rfl, hbody⟩ := Gap.eq_of_text_append_eq (body.stopsBlank_text_append _)
    (body'.stopsBlank_text_append _) h
  obtain ⟨rfl, hafter⟩ := ExprDerivation.eq_of_text_append_eq he hbody
  obtain rfl : after = after' := Gap.ext hafter
  rfl

end Derivation

end AsmDispatch.Literal
