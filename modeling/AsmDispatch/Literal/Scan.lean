import AsmDispatch.Literal.Basic
import AsmDispatch.Text.Blank
import AsmDispatch.Text.Word

/-! # Reading literal expressions

A failure is the rest of the text at the point where an atom was expected and none stands, or where
the expression ended before the text did. -/

namespace AsmDispatch.Literal

open Text (isBlank isWord run? length_lt_of_run?_eq_some)

/-- A hexadecimal digit of ASCII. -/
def isHexDigit (c : Char) : Bool :=
  c.isDigit || ('a' ≤ c && c ≤ 'f') || ('A' ≤ c && c ≤ 'F')

def isBinDigit (c : Char) : Bool := c == '0' || c == '1'

/-- A numeral or a word at the very start of the text. -/
def scanLeaf? (t : Text) : Option (Atom × Text) :=
  match t with
  | '$' :: r => (run? isHexDigit r).map fun p => (.hex p.1, p.2)
  | '%' :: r => (run? isBinDigit r).map fun p => (.bin p.1, p.2)
  | r => (run? isWord r).map fun p => (.word p.1, p.2)

/-- An atom and the text behind it, or the text at which an atom was expected. -/
def scanAtom : Text → Except Text (Atom × Text)
  | [] => .error []
  | c :: t =>
    if isBlank c then scanAtom t
    else if c = '<' then (scanAtom t).map fun p => (.low p.1, p.2)
    else if c = '>' then (scanAtom t).map fun p => (.high p.1, p.2)
    else match scanLeaf? (c :: t) with
      | some p => .ok p
      | none => .error (c :: t)

/-- An operator behind any number of blanks. -/
def scanOperator? : Text → Option (Operator × Text)
  | [] => none
  | c :: t => if isBlank c then scanOperator? t else (Operator.ofSymbol? c).map (·, t)

theorem length_lt_of_scanLeaf?_eq_some {t r : Text} {a : Atom} (h : scanLeaf? t = some (a, r)) :
    r.length < t.length := by
  unfold scanLeaf? at h
  split at h <;> obtain ⟨⟨ds, r'⟩, hrun, heq⟩ := Option.map_eq_some_iff.mp h <;> cases heq <;>
    have := length_lt_of_run?_eq_some hrun <;> simp only [List.length_cons] at * <;> omega

theorem length_lt_of_scanAtom_eq_ok {t r : Text} {a : Atom} (h : scanAtom t = .ok (a, r)) :
    r.length < t.length := by
  induction t generalizing a with
  | nil => cases h
  | cons c t ih =>
    rw [scanAtom] at h
    simp only [List.length_cons]
    split at h
    · have := ih h
      omega
    · split at h
      · cases hs : scanAtom t with
        | error e => rw [hs] at h; cases h
        | ok p =>
          rw [hs] at h
          cases h
          have := ih hs
          omega
      · split at h
        · cases hs : scanAtom t with
          | error e => rw [hs] at h; cases h
          | ok p =>
            rw [hs] at h
            cases h
            have := ih hs
            omega
        · split at h
          · next p hp =>
            cases h
            have := length_lt_of_scanLeaf?_eq_some hp
            simpa using this
          · cases h

theorem length_lt_of_scanOperator?_eq_some {t r : Text} {o : Operator}
    (h : scanOperator? t = some (o, r)) : r.length < t.length := by
  induction t with
  | nil => cases h
  | cons c t ih =>
    rw [scanOperator?] at h
    simp only [List.length_cons]
    split at h
    · have := ih h
      omega
    · obtain ⟨o', -, heq⟩ := Option.map_eq_some_iff.mp h
      cases heq
      omega

/-- The longest expression at the start of the text and what follows it. -/
def scanExpr (t : Text) : Except Text (Expr × Text) :=
  match _ha : scanAtom t with
  | .error r => .error r
  | .ok (a, r) =>
    match _ho : scanOperator? r with
    | none => .ok (.atom a, r)
    | some (o, r') => (scanExpr r').map fun p => (.chain a o p.1, p.2)
termination_by t.length
decreasing_by
  exact Nat.lt_trans (length_lt_of_scanOperator?_eq_some _ho) (length_lt_of_scanAtom_eq_ok _ha)

/-- The expression that a text holds, with blanks allowed between its parts and around it. -/
def parse (t : Text) : Except Text Expr :=
  match scanExpr t with
  | .error r => .error (Text.strip r)
  | .ok (e, r) => if Text.strip r = [] then .ok e else .error (Text.strip r)

end AsmDispatch.Literal
