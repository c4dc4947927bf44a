import AsmDispatch.Proofs.Text.Class

/-!
# Expressions of the hosts

The usual grammar of expressions, as far as generated literals need it: words, parentheses, calls of
`LO` and `HI`, and four operators of which `*` and `/` bind tighter than `+` and `-`.  All four
group to the left.

    sum     := product | sum ('+' | '-') product
    product := factor | product ('*' | '/') factor
    factor  := word | '(' sum ')' | 'LO' '(' sum ')' | 'HI' '(' sum ')'

The grammar is left recursive, so a derivation cannot be followed from its first token on.
`Descends` reads the same sentences from left to right, with the operand so far in hand.  It leaves
no choice at any token, and every derivation can be read so; hence the grammar is unambiguous.

## Main statements

* `Derives.unique`: a list of tokens has at most one tree.
-/

namespace AsmDispatch.HostExpr

open Literal (Operator)
open Text (isBlank isWord Stops stops_cons)

/-! ## Tokens -/

inductive Token where
  | word (w : Text)
  | opening
  | closing
  | operator (o : Operator)
deriving DecidableEq, Repr

/-- The token that a character is by itself. -/
def Token.ofChar? (c : Char) : Option Token :=
  if c = '(' then some .opening
  else if c = ')' then some .closing
  else (Operator.ofSymbol? c).map .operator

/-- Tokens behind a word that may be empty and is written last character first. -/
def flush : Text → List Token → List Token
  | [], ts => ts
  | c :: w, ts => .word (c :: w).reverse :: ts

/-- The tokens of a text behind the characters of an unfinished word, last character first. -/
def lexAfter (w : Text) : Text → Option (List Token)
  | [] => some (flush w [])
  | c :: t =>
    if isWord c then lexAfter (c :: w) t
    else if isBlank c then (lexAfter [] t).map (flush w)
    else do
      let k ← Token.ofChar? c
      let ts ← lexAfter [] t
      return flush w (k :: ts)

/-- The tokens of a text; words are as long as possible, and blanks only separate. -/
def lex (t : Text) : Option (List Token) := lexAfter [] t

section Lex

variable {v w r : Text}

theorem lexAfter_append (hw : ∀ c ∈ w, isWord c = true) :
    lexAfter v (w ++ r) = lexAfter (w.reverse ++ v) r := by
  induction w generalizing v with
  | nil => rfl
  | cons c w ih =>
    rw [List.cons_append, lexAfter, if_pos (hw c List.mem_cons_self),
      ih fun d hd => hw d (List.mem_cons_of_mem c hd)]
    simp

/-- A word ends where no character of words follows. -/
theorem lexAfter_eq_map_flush (hr : Stops isWord r) : lexAfter v r = (lex r).map (flush v) := by
  cases r with
  | nil => rfl
  | cons c r =>
    have hc : ¬ isWord c = true := by simp [stops_cons.mp hr]
    unfold lex
    rw [lexAfter, lexAfter, if_neg hc, if_neg hc]
    split
    · rw [Option.map_map]
      rfl
    · cases Token.ofChar? c with
      | none => rfl
      | some k => cases lexAfter [] r <;> rfl

theorem lex_cons_of_isBlank {c : Char} (hc : isBlank c = true) : lex (c :: r) = lex r := by
  rw [lex, lexAfter, if_neg (by simp [Text.isWord_eq_false_of_isBlank hc]), if_pos hc]
  exact Option.map_id'

theorem lex_cons_of_ofChar? {c : Char} {k : Token} (hword : isWord c = false)
    (hblank : isBlank c = false) (hk : Token.ofChar? c = some k) :
    lex (c :: r) = (lex r).map (k :: ·) := by
  rw [lex, lexAfter, if_neg (by simp [hword]), if_neg (by simp [hblank]), hk]
  cases hl : lexAfter [] r <;> simp [lex, hl, flush]

/-- The text has the tokens in front of whatever does not continue its last word. -/
def Lexes (t : Text) (ts : List Token) : Prop :=
  ∀ ⦃r : Text⦄, Stops isWord r → lex (t ++ r) = (lex r).map (ts ++ ·)

variable {t t' : Text} {ts ts' : List Token}

theorem Lexes.lex_eq (h : Lexes t ts) : lex t = some ts := by
  have hnil := h (Text.stops_nil)
  rw [List.append_nil, show lex [] = some [] from rfl, Option.map_some, List.append_nil] at hnil
  exact hnil

theorem lexes_word (hne : w ≠ []) (hw : ∀ c ∈ w, isWord c = true) : Lexes w [.word w] := by
  intro r hr
  have hflush : flush w.reverse = ([Token.word w] ++ ·) := by
    obtain ⟨c, u, hu⟩ := List.exists_cons_of_ne_nil (List.reverse_ne_nil_iff.mpr hne)
    funext ts
    rw [hu, flush, ← hu, List.reverse_reverse]
    rfl
  rw [lex, lexAfter_append hw, List.append_nil, lexAfter_eq_map_flush hr, hflush]

theorem Lexes.parens (h : Lexes t ts) :
    Lexes ("(" ++ t ++ ")") (.opening :: (ts ++ [.closing])) := by
  intro r _
  have hopen : lex ('(' :: (t ++ ')' :: r)) = (lex (t ++ ')' :: r)).map (.opening :: ·) :=
    lex_cons_of_ofChar? (by decide) (by decide) rfl
  have hclose : lex (')' :: r) = (lex r).map (.closing :: ·) :=
    lex_cons_of_ofChar? (by decide) (by decide) rfl
  rw [h (stops_cons.mpr (by decide)), hclose] at hopen
  rw [List.append_assoc, List.append_assoc]
  refine hopen.trans ?_
  simp [Option.map_map, Function.comp_def]

/-- A word directly in front of a text that does not continue it. -/
theorem Lexes.afterWord {c : Char} (hne : w ≠ []) (hw : ∀ c ∈ w, isWord c = true)
    (hc : isWord c = false) (h : Lexes (c :: t) ts) : Lexes (w ++ c :: t) (.word w :: ts) := by
  intro r hr
  rw [List.append_assoc, lexes_word hne hw (r := c :: t ++ r) (stops_cons.mpr hc), h hr]
  simp [Option.map_map, Function.comp_def]

theorem Lexes.operator (o : Operator) (h : Lexes t ts) (h' : Lexes t' ts') :
    Lexes (t ++ [' ', o.symbol, ' '] ++ t') (ts ++ .operator o :: ts') := by
  intro r hr
  have hblank (s : Text) : lex (' ' :: s) = lex s := lex_cons_of_isBlank (by decide)
  have hop (s : Text) : lex (o.symbol :: s) = (lex s).map (.operator o :: ·) :=
    lex_cons_of_ofChar? o.isWord_symbol o.isBlank_symbol (by cases o <;> rfl)
  simp only [List.append_assoc, List.cons_append, List.nil_append]
  rw [h (stops_cons.mpr (by decide)), hblank, hop, hblank, h' hr]
  simp [Option.map_map, Function.comp_def]

end Lex

/-! ## The grammar -/

inductive Term where
  | leaf (word : Text)
  | low (of : Term)
  | high (of : Term)
  | binary (op : Operator) (left right : Term)
deriving DecidableEq, Repr

inductive Level where
  | factor
  | product
  | sum

def bindsTight : Operator → Bool
  | .mul | .div => true
  | .add | .sub => false

/-- What the call of a function means, if it may be called. -/
def call? (w : Text) : Option (Term → Term) :=
  if w = "LO" then some .low else if w = "HI" then some .high else none

inductive Derives : Level → List Token → Term → Prop
  | word (w : Text) : Derives .factor [.word w] (.leaf w)
  | parens {ts : List Token} {t : Term} (h : Derives .sum ts t) :
      Derives .factor (.opening :: (ts ++ [.closing])) t
  | call {w : Text} {f : Term → Term} {ts : List Token} {t : Term} (hf : call? w = some f)
      (h : Derives .sum ts t) :
      Derives .factor (.word w :: .opening :: (ts ++ [.closing])) (f t)
  | factor {ts : List Token} {t : Term} (h : Derives .factor ts t) : Derives .product ts t
  | times {o : Operator} {ts ts' : List Token} {a b : Term} (ho : bindsTight o = true)
      (ha : Derives .product ts a) (hb : Derives .factor ts' b) :
      Derives .product (ts ++ .operator o :: ts') (.binary o a b)
  | product {ts : List Token} {t : Term} (h : Derives .product ts t) : Derives .sum ts t
  | plus {o : Operator} {ts ts' : List Token} {a b : Term} (ho : bindsTight o = false)
      (ha : Derives .sum ts a) (hb : Derives .product ts' b) :
      Derives .sum (ts ++ .operator o :: ts') (.binary o a b)

/-- The text is a sentence of the grammar, and the tree is what it means. -/
def Reads (t : Text) (e : Term) : Prop := ∃ ts, lex t = some ts ∧ Derives .sum ts e

/-! ## Reading from left to right -/

/-- What is to be read next: a part of the given level, or what may follow the operand in hand. -/
inductive Goal where
  | part (l : Level)
  | factors (a : Term)
  | products (a : Term)

/-- The next token is an operator of the given strength. -/
def NextIs (tight : Bool) (r : List Token) : Prop :=
  ∃ o r', r = .operator o :: r' ∧ bindsTight o = tight

/-- The next token opens a parenthesis. -/
def NextOpens (r : List Token) : Prop := ∃ r', r = .opening :: r'

/-- `Descends g ts t r`: with goal `g` the tokens `ts` are read to the tree `t`, up to `r`. -/
inductive Descends : Goal → List Token → Term → List Token → Prop
  | word {w : Text} {r : List Token} (hr : ¬ NextOpens r) :
      Descends (.part .factor) (.word w :: r) (.leaf w) r
  | parens {ts r : List Token} {t : Term} (h : Descends (.part .sum) ts t (.closing :: r)) :
      Descends (.part .factor) (.opening :: ts) t r
  | call {w : Text} {f : Term → Term} {ts r : List Token} {t : Term} (hf : call? w = some f)
      (h : Descends (.part .sum) ts t (.closing :: r)) :
      Descends (.part .factor) (.word w :: .opening :: ts) (f t) r
  | product {ts r r' : List Token} {a t : Term} (ha : Descends (.part .factor) ts a r)
      (h : Descends (.factors a) r t r') : Descends (.part .product) ts t r'
  | times {o : Operator} {r r' r'' : List Token} {a b t : Term} (ho : bindsTight o = true)
      (hb : Descends (.part .factor) r b r') (h : Descends (.factors (.binary o a b)) r' t r'') :
      Descends (.factors a) (.operator o :: r) t r''
  | factorsEnd {a : Term} {r : List Token} (hr : ¬ NextIs true r) : Descends (.factors a) r a r
  | sum {ts r r' : List Token} {a t : Term} (ha : Descends (.part .product) ts a r)
      (h : Descends (.products a) r t r') : Descends (.part .sum) ts t r'
  | plus {o : Operator} {r r' r'' : List Token} {a b t : Term} (ho : bindsTight o = false)
      (hb : Descends (.part .product) r b r') (h : Descends (.products (.binary o a b)) r' t r'') :
      Descends (.products a) (.operator o :: r) t r''
  | productsEnd {a : Term} {r : List Token} (hr : ¬ NextIs false r) : Descends (.products a) r a r

section Unique

variable {g : Goal} {ts r r' : List Token} {t t' : Term}

/-- At every token there is at most one way to go on. -/
theorem Descends.unique (h : Descends g ts t r) (h' : Descends g ts t' r') : t = t' ∧ r = r' := by
  induction h generalizing t' r' with
  | word hr =>
    cases h' with
    | word => exact ⟨rfl, rfl⟩
    | call => exact absurd ⟨_, rfl⟩ hr
  | parens _ ih =>
    cases h' with
    | parens h' =>
      obtain ⟨rfl, hr⟩ := ih h'
      exact ⟨rfl, (List.cons.inj hr).2⟩
  | call hf _ ih =>
    cases h' with
    | word hr => exact absurd ⟨_, rfl⟩ hr
    | call hf' h' =>
      obtain ⟨rfl, hr⟩ := ih h'
      rw [hf] at hf'
      cases hf'
      exact ⟨rfl, (List.cons.inj hr).2⟩
  | product _ _ iha ih =>
    cases h' with
    | product ha' h' =>
      obtain ⟨rfl, rfl⟩ := iha ha'
      exact ih h'
  | times ho _ _ ihb ih =>
    cases h' with
    | times _ hb' h' =>
      obtain ⟨rfl, rfl⟩ := ihb hb'
      exact ih h'
    | factorsEnd hr => exact absurd ⟨_, _, rfl, ho⟩ hr
  | factorsEnd hr =>
    cases h' with
    | times ho => exact absurd ⟨_, _, rfl, ho⟩ hr
    | factorsEnd => exact ⟨rfl, rfl⟩
  | sum _ _ iha ih =>
    cases h' with
    | sum ha' h' =>
      obtain ⟨rfl, rfl⟩ := iha ha'
      exact ih h'
  | plus ho _ _ ihb ih =>
    cases h' with
    | plus _ hb' h' =>
      obtain ⟨rfl, rfl⟩ := ihb hb'
      exact ih h'
    | productsEnd hr => exact absurd ⟨_, _, rfl, ho⟩ hr
  | productsEnd hr =>
    cases h' with
    | plus ho => exact absurd ⟨_, _, rfl, ho⟩ hr
    | productsEnd => exact ⟨rfl, rfl⟩

/-- What reading a part of the level comes to, when the part is `t` and the tokens `r` follow: the
end of the part for a factor, and otherwise whatever follows the operand `t`. -/
def Continues : Level → Term → List Token → Term → List Token → Prop
  | .factor, t, r, t', r' => t = t' ∧ r = r'
  | .product, t, r, t', r' => Descends (.factors t) r t' r'
  | .sum, t, r, t', r' => ¬ NextIs true r ∧ Descends (.products t) r t' r'

theorem not_nextIs_operator {o : Operator} {tight : Bool} (ho : bindsTight o = !tight)
    (r : List Token) : ¬ NextIs tight (.operator o :: r) := by
  rintro ⟨o', r', heq, ho'⟩
  cases heq
  rw [ho] at ho'
  cases tight <;> cases ho'

theorem not_nextIs_closing {tight : Bool} (r : List Token) : ¬ NextIs tight (.closing :: r) := by
  rintro ⟨o, r', heq, -⟩
  cases heq

theorem not_nextOpens_operator (o : Operator) (r : List Token) :
    ¬ NextOpens (.operator o :: r) := by
  rintro ⟨r', heq⟩
  cases heq

theorem not_nextOpens_closing (r : List Token) : ¬ NextOpens (.closing :: r) := by
  rintro ⟨r', heq⟩
  cases heq

/-- Whatever is derived can be read from left to right, in front of anything that may follow it. -/
theorem Derives.descends {l : Level} (h : Derives l ts t) (hr : ¬ NextOpens r)
    (hc : Continues l t r t' r') : Descends (.part l) (ts ++ r) t' r' := by
  induction h generalizing r t' r' with
  | word w =>
    obtain ⟨rfl, rfl⟩ := hc
    exact .word hr
  | parens _ ih =>
    obtain ⟨rfl, rfl⟩ := hc
    rw [List.cons_append, List.append_assoc]
    exact .parens (ih (not_nextOpens_closing r)
      ⟨not_nextIs_closing r, .productsEnd (not_nextIs_closing r)⟩)
  | call hf _ ih =>
    obtain ⟨rfl, rfl⟩ := hc
    rw [List.cons_append, List.cons_append, List.append_assoc]
    exact .call hf (ih (not_nextOpens_closing r)
      ⟨not_nextIs_closing r, .productsEnd (not_nextIs_closing r)⟩)
  | factor _ ih => exact .product (ih hr ⟨rfl, rfl⟩) hc
  | times ho _ _ iha ihb =>
    -- The product on the left goes on with the operator, and then with what follows the whole.
    rw [List.append_assoc]
    exact iha (not_nextOpens_operator _ _) (.times ho (ihb hr ⟨rfl, rfl⟩) hc)
  | product _ ih => exact .sum (ih hr (.factorsEnd hc.1)) hc.2
  | plus ho _ _ iha ihb =>
    rw [List.append_assoc]
    exact iha (not_nextOpens_operator _ _)
      ⟨not_nextIs_operator ho _, .plus ho (ihb hr (.factorsEnd hc.1)) hc.2⟩

/-- The grammar is unambiguous. -/
theorem Derives.unique (h : Derives .sum ts t) (h' : Derives .sum ts t') : t = t' := by
  have hopens : ¬ NextOpens [] := by rintro ⟨r', heq⟩; cases heq
  have hnext (tight : Bool) : ¬ NextIs tight [] := by rintro ⟨o, r', heq, -⟩; cases heq
  have hread := h.descends hopens ⟨hnext true, .productsEnd (hnext false)⟩
  have hread' := h'.descends hopens ⟨hnext true, .productsEnd (hnext false)⟩
  exact (hread.unique hread').1

/-- A text has at most one meaning. -/
theorem Reads.unique {s : Text} (h : Reads s t) (h' : Reads s t') : t = t' := by
  obtain ⟨ts, hlex, hd⟩ := h
  obtain ⟨ts', hlex', hd'⟩ := h'
  rw [hlex] at hlex'
  cases hlex'
  exact hd.unique hd'

end Unique

end AsmDispatch.HostExpr
