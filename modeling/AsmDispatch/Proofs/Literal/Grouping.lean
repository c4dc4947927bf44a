import AsmDispatch.Proofs.Literal.Acceptance
import AsmDispatch.Proofs.Literal.HostGrammar
import AsmDispatch.Proofs.Text.Numeral
import Mathlib.Data.List.Basic

/-!
# Rendered literals keep their grouping and their value

The source groups to the right and knows no precedence, the hosts group to the left and do.  The
text that a literal is rendered to, read by the grammar of the hosts, is nevertheless the tree of
the source, with every numeral of the same value in its place.
-/

namespace AsmDispatch.Literal

open Text (isBlank isWord Stops stops_cons)
open HostExpr (Token Term Derives Lexes)

/-! ## Values -/

/-- The value of a hexadecimal digit. -/
def digit (c : Char) : Nat :=
  if 'a' ≤ c then c.toNat - 'a'.toNat + 10
  else if 'A' ≤ c then c.toNat - 'A'.toNat + 10
  else c.toNat - '0'.toNat

/-- The number that a run of digits stands for. -/
def value (base : Nat) (ds : Text) : Nat := Text.ofDigits base (ds.map digit)

/-- The number that a word of the host stands for, if it is a hexadecimal numeral. -/
def numeral? : Text → Option Nat
  | '0' :: 'x' :: ds => if ds ≠ [] ∧ ds.all isHexDigit then some (value 16 ds) else none
  | _ => none

theorem numeral?_eq_some {ds : Text} (hne : ds ≠ []) (hall : ∀ c ∈ ds, isHexDigit c = true) :
    numeral? ('0' :: 'x' :: ds) = some (value 16 ds) :=
  if_pos ⟨hne, List.all_eq_true.mpr hall⟩

theorem isHexDigit_toLower {c : Char} (h : isHexDigit c = true) : isHexDigit c.toLower = true := by
  have hall : hexDigits.all (fun c => isHexDigit c.toLower) = true := by decide
  exact of_isHexDigit hall h

theorem digit_toLower {c : Char} (h : isHexDigit c = true) : digit c.toLower = digit c := by
  have hall : hexDigits.all (fun c => digit c.toLower == digit c) = true := by decide
  exact beq_iff_eq.mp (of_isHexDigit hall h)

theorem value_map_toLower {base : Nat} {ds : Text} (h : ∀ c ∈ ds, isHexDigit c = true) :
    value base (ds.map Char.toLower) = value base ds := by
  have hmap : (ds.map Char.toLower).map digit = ds.map digit := by
    rw [List.map_map]
    exact List.map_congr_left fun c hc => digit_toLower (h c hc)
  rw [value, hmap, value]

theorem digit_digitChar {d : Nat} (h : d < 16) : digit d.digitChar = d := by
  have hall : ∀ d < 16, digit d.digitChar = d := by decide
  exact hall d h

theorem isHexDigit_of_mem_toDigits {n : Nat} {c : Char} (h : c ∈ Nat.toDigits 16 n) :
    isHexDigit c = true := by
  have hall : ∀ d < 16, isHexDigit d.digitChar = true := by decide
  obtain ⟨d, hd, rfl⟩ := Text.exists_digit_of_mem_toDigits (by decide) h
  exact hall d hd

theorem value_toDigits (n : Nat) : value 16 (Nat.toDigits 16 n) = n :=
  Text.ofDigits_map_toDigits (by decide) (fun _ => digit_digitChar) n

theorem binValue_eq_value {ds : Text} (h : ∀ c ∈ ds, isBinDigit c = true) :
    binValue ds = value 2 ds := by
  have hdigit (c : Char) (hc : isBinDigit c = true) : (if c = '1' then 1 else 0) = digit c := by
    simp only [isBinDigit, Bool.or_eq_true, beq_iff_eq] at hc
    rcases hc with rfl | rfl <;> decide
  unfold binValue value Text.ofDigits
  rw [List.foldl_map]
  exact List.foldl_ext _ _ 0 fun n c hc => by rw [hdigit c (h c hc)]

/-! ## The tree of a literal in the host -/

/-- The tree is the atom, with a numeral of the same value for each numeral: for a hexadecimal one
with as many digits. -/
inductive Atom.Mirrors : Atom → Term → Prop
  | hex {ds ds' : Text} (hlength : ds'.length = ds.length)
      (hvalue : numeral? ("0x" ++ ds') = some (value 16 ds)) :
      Atom.Mirrors (.hex ds) (.leaf ("0x" ++ ds'))
  | bin {ds w : Text} (hvalue : numeral? w = some (value 2 ds)) : Atom.Mirrors (.bin ds) (.leaf w)
  | word (w : Text) : Atom.Mirrors (.word w) (.leaf w)
  | low {a : Atom} {t : Term} (h : a.Mirrors t) : Atom.Mirrors (.low a) (.low t)
  | high {a : Atom} {t : Term} (h : a.Mirrors t) : Atom.Mirrors (.high a) (.high t)

/-- The tree is the expression, operator by operator. -/
inductive Expr.Mirrors : Expr → Term → Prop
  | atom {a : Atom} {t : Term} (h : a.Mirrors t) : Expr.Mirrors (.atom a) t
  | chain {a : Atom} {o : Operator} {e : Expr} {t t' : Term} (ha : a.Mirrors t)
      (he : e.Mirrors t') : Expr.Mirrors (.chain a o e) (.binary o t t')

/-- The tree that the rendered atom is meant to have. -/
def Atom.hostTerm : Atom → Term
  | .low a => .low a.hostTerm
  | .high a => .high a.hostTerm
  | a => .leaf a.render

def Expr.hostTerm : Expr → Term
  | .atom a => a.hostTerm
  | .chain a o e => .binary o a.hostTerm e.hostTerm

/-- The tokens of the rendered atom. -/
def Atom.hostTokens : Atom → List Token
  | .low a => .word "LO" :: .opening :: (a.hostTokens ++ [.closing])
  | .high a => .word "HI" :: .opening :: (a.hostTokens ++ [.closing])
  | a => [.word a.render]

def Expr.hostTokens : Expr → List Token
  | .atom a => a.hostTokens
  | .chain a o e =>
    a.hostTokens ++ .operator o ::
      if e.isChain then .opening :: (e.hostTokens ++ [.closing]) else e.hostTokens

theorem Atom.derives_hostTokens (a : Atom) : Derives .factor a.hostTokens a.hostTerm := by
  induction a with
  | hex ds => exact .word _
  | bin ds => exact .word _
  | word w => exact .word _
  | low a ih => exact .call rfl (.product (.factor ih))
  | high a ih => exact .call rfl (.product (.factor ih))

/-- An operator of either strength takes a factor on its right and, since it is the only one, a
factor on its left. -/
theorem derives_binary {o : Operator} {ts ts' : List Token} {a b : Term}
    (ha : Derives .factor ts a) (hb : Derives .factor ts' b) :
    Derives .sum (ts ++ .operator o :: ts') (.binary o a b) := by
  cases ho : HostExpr.bindsTight o with
  | true => exact .product (.times ho (.factor ha) hb)
  | false => exact .plus ho (.product (.factor ha)) (.factor hb)

theorem Expr.derives_hostTokens (e : Expr) : Derives .sum e.hostTokens e.hostTerm := by
  induction e with
  | atom a => exact .product (.factor a.derives_hostTokens)
  | chain a o e ih =>
    -- The right side is a factor: an atom as it stands, and a chain by its parentheses.
    refine derives_binary a.derives_hostTokens ?_
    cases e with
    | atom b => exact b.derives_hostTokens
    | chain b o' e => exact .parens ih

/-! ## The tokens of a rendered literal -/

theorem isWord_of_mem_numeral {ds : Text} (h : ∀ c ∈ ds, isHexDigit c = true) {c : Char}
    (hc : c ∈ ("0x" ++ ds : Text)) : isWord c = true := by
  have hmark : (("0x" : String) : Text).all isWord = true := by decide
  rcases List.mem_append.mp hc with hc | hc
  · exact List.all_eq_true.mp hmark c hc
  · exact isWord_of_isHexDigit (h c hc)

theorem isWord_of_mem_render_hex (ds : Run isHexDigit) {c : Char}
    (hc : c ∈ (Atom.hex ds.text).render) : isWord c = true := by
  refine isWord_of_mem_numeral (fun d hd => ?_) hc
  obtain ⟨e, he, rfl⟩ := List.mem_map.mp hd
  exact isHexDigit_toLower (ds.all e he)

theorem isWord_of_mem_render_bin (ds : Run isBinDigit) {c : Char}
    (hc : c ∈ (Atom.bin ds.text).render) : isWord c = true :=
  isWord_of_mem_numeral (fun _ hd => isHexDigit_of_mem_toDigits hd) hc

theorem AtomDerivation.lexes_render (a : AtomDerivation) :
    Lexes a.atom.render a.atom.hostTokens := by
  induction a with
  | hex ds =>
    exact HostExpr.lexes_word (List.cons_ne_nil _ _) fun _ => isWord_of_mem_render_hex ds
  | bin ds =>
    exact HostExpr.lexes_word (List.cons_ne_nil _ _) fun _ => isWord_of_mem_render_bin ds
  | word cs => exact HostExpr.lexes_word cs.ne_nil cs.all
  | low gap a ih =>
    have hname : ['L', 'O'].all isWord = true := by decide
    exact ih.parens.afterWord (by decide) (List.all_eq_true.mp hname) (by decide)
  | high gap a ih =>
    have hname : ['H', 'I'].all isWord = true := by decide
    exact ih.parens.afterWord (by decide) (List.all_eq_true.mp hname) (by decide)

theorem ExprDerivation.lexes_render (e : ExprDerivation) :
    Lexes e.expr.render e.expr.hostTokens := by
  induction e with
  | atom a => exact a.lexes_render
  | chain left before op after right ih =>
    refine left.lexes_render.operator op ?_
    split
    · exact ih.parens
    · exact ih

/-! ## Numerals keep their value -/

theorem AtomDerivation.mirrors_hostTerm (a : AtomDerivation) :
    a.atom.Mirrors a.atom.hostTerm := by
  induction a with
  | hex ds =>
    have hhex : ∀ c ∈ ds.text.map Char.toLower, isHexDigit c = true := by
      intro c hc
      obtain ⟨d, hd, rfl⟩ := List.mem_map.mp hc
      exact isHexDigit_toLower (ds.all d hd)
    refine .hex (List.length_map _) ?_
    rw [← value_map_toLower ds.all]
    exact numeral?_eq_some (by simpa using ds.ne_nil) hhex
  | bin ds =>
    have hnum : numeral? ('0' :: 'x' :: Nat.toDigits 16 (binValue ds.text)) =
        some (value 16 (Nat.toDigits 16 (binValue ds.text))) :=
      numeral?_eq_some Nat.toDigits_ne_nil fun c hc => isHexDigit_of_mem_toDigits hc
    refine .bin ?_
    rw [← binValue_eq_value ds.all]
    exact hnum.trans (congrArg some (value_toDigits _))
  | word cs => exact .word cs.text
  | low gap a ih => exact .low ih
  | high gap a ih => exact .high ih

theorem ExprDerivation.mirrors_hostTerm (e : ExprDerivation) :
    e.expr.Mirrors e.expr.hostTerm := by
  induction e with
  | atom a => exact .atom a.mirrors_hostTerm
  | chain left before op after right ih => exact .chain left.mirrors_hostTerm ih

/-! ## Evaluation -/

/-- What numbers, names, selected bytes and operators stand for. -/
structure Interpretation (α : Type) where
  number : Nat → α
  name : Text → α
  low : α → α
  high : α → α
  operate : Operator → α → α → α

namespace Interpretation

variable {α : Type}

/-- A word of the host: a numeral is a number, any other word is a name. -/
def word (I : Interpretation α) (w : Text) : α :=
  match numeral? w with
  | some n => I.number n
  | none => I.name w

/-- An atom of the source; its words are words of the host. -/
def atom (I : Interpretation α) : Atom → α
  | .hex ds => I.number (value 16 ds)
  | .bin ds => I.number (value 2 ds)
  | .word w => I.word w
  | .low a => I.low (I.atom a)
  | .high a => I.high (I.atom a)

def expr (I : Interpretation α) : Expr → α
  | .atom a => I.atom a
  | .chain a o e => I.operate o (I.atom a) (I.expr e)

def term (I : Interpretation α) : Term → α
  | .leaf w => I.word w
  | .low t => I.low (I.term t)
  | .high t => I.high (I.term t)
  | .binary o t t' => I.operate o (I.term t) (I.term t')

variable (I : Interpretation α)

theorem word_of_numeral? {w : Text} {n : Nat} (h : numeral? w = some n) :
    I.word w = I.number n := by
  rw [word, h]

theorem term_eq_atom {a : Atom} {t : Term} (h : a.Mirrors t) : I.term t = I.atom a := by
  induction h with
  | hex _ hvalue => exact I.word_of_numeral? hvalue
  | bin hvalue => exact I.word_of_numeral? hvalue
  | word w => rfl
  | low _ ih => exact congrArg I.low ih
  | high _ ih => exact congrArg I.high ih

/-- Mirrored expressions mean the same. -/
theorem term_eq_expr {e : Expr} {t : Term} (h : e.Mirrors t) : I.term t = I.expr e := by
  induction h with
  | atom h => exact I.term_eq_atom h
  | chain ha _ ih => exact congrArg₂ (I.operate _) (I.term_eq_atom ha) ih

end Interpretation

/-! ## The rendered text -/

/-- What the rendered text of a derived expression means to the host. -/
theorem ExprDerivation.reads_render_iff (e : ExprDerivation) (t : Term) :
    HostExpr.Reads e.expr.render t ↔ t = e.expr.hostTerm := by
  have hreads : HostExpr.Reads e.expr.render e.expr.hostTerm :=
    ⟨_, e.lexes_render.lex_eq, e.expr.derives_hostTokens⟩
  constructor
  · intro h
    exact h.unique hreads
  · rintro rfl
    exact hreads

/-- The host reads the result for an accepted literal, in one way only, and finds the tree of the
source in it: grouped to the right without precedence, with numerals of the same value.  So the two
have the same value under every interpretation. -/
theorem format_keeps_grouping_and_value {t out : Text} {location : Option Location}
    {sourceLine : Option Text} (h : format t location sourceLine = .ok out) :
    ∃ (d : Derivation) (e : Term), d.text = t ∧ (∀ e', HostExpr.Reads out e' ↔ e' = e) ∧
      d.expr.Mirrors e ∧ ∀ (α : Type) (I : Interpretation α), I.term e = I.expr d.expr := by
  obtain ⟨d, ht, rfl⟩ := format_eq_ok_iff.mp h
  refine ⟨d, d.expr.hostTerm, ht, d.body.reads_render_iff, d.body.mirrors_hostTerm, ?_⟩
  intro α I
  exact I.term_eq_expr d.body.mirrors_hostTerm

/-- A chain of both strengths, with a selected byte and numerals of both kinds. -/
theorem format_keeps_grouping_and_value_of_chain :
    format "A*<$0F+%101" none = .ok "A * (LO(0x0f) + 0x5)" ∧
    ∃ (d : Derivation) (e : Term), d.text = "A*<$0F+%101" ∧
      (∀ e', HostExpr.Reads "A * (LO(0x0f) + 0x5)" e' ↔ e' = e) ∧ d.expr.Mirrors e ∧
      ∀ (α : Type) (I : Interpretation α), I.term e = I.expr d.expr := by
  have h : format "A*<$0F+%101" none = .ok "A * (LO(0x0f) + 0x5)" := by
    decide +kernel
  exact ⟨h, format_keeps_grouping_and_value h⟩

end AsmDispatch.Literal
