import AsmDispatch.Proofs.Literal.Acceptance
import AsmDispatch.Proofs.Outcome

/-!
# Where reading a literal comes to a halt

The scanner never goes back, so what it has consumed of a literal when it fails is a beginning that
can be read: either a whole literal, with something behind it that cannot continue it, or a part of
one behind which an atom is missing.  The fault of the literal holds the rest from there on.

The consumed part is looked at apart from the rest of the text.  A part that has been read is read
in the same way in front of every text that starts with the same character and has no operator at
its start; a part that lacks an atom is read in the same way in front of every text that has none to
offer, and any atom behind it makes it whole.

## Main statements

* `exists_consumed_of_scanExpr_eq_ok`, `exists_consumed_of_scanExpr_eq_error`: what was consumed, in
  front of other texts.
* `fault_names_halt`: the fault of a literal names the point at which reading it came to a halt.
-/

namespace AsmDispatch

/-! ## The ends of runs -/

namespace Text

variable {p : Char → Bool} {c r r' t u : Text}

theorem stops_of_run?_eq_some (h : run? p t = some (u, r)) : Stops p r := by
  unfold run? at h
  split at h
  · cases h
  · cases h
    exact stops_dropWhile p t

theorem run?_eq_none_iff : run? p t = none ↔ Stops p t := by
  cases t with
  | nil => simp [run?]
  | cons c t =>
    rw [stops_cons, run?]
    cases hc : p c with
    | true => simp [hc]
    | false => simp [hc]

/-- Whether a text stops a run is told by its first character. -/
theorem Stops.of_head? (h : Stops p r) (hr' : r'.head? = r.head?) : Stops p r' := by
  intro c hc
  rw [hr'] at hc
  exact h c hc

end Text

namespace Literal

open Text (isBlank isWord strip run? run?_append Stops stops_cons eq_append_of_run?_eq_some)

variable {c r r' t : Text} {a : Atom} {e : Expr} {o : Operator}

/-! ## The parts of a step -/

theorem scanAtom_blank {ch : Char} (hblank : isBlank ch = true) (t : Text) :
    scanAtom (ch :: t) = scanAtom t := by
  rw [scanAtom, if_pos hblank]

/-- The character selects a byte of the atom behind it. -/
structure Selects (ch : Char) (select : Atom → Atom)
    (derive : Gap → AtomDerivation → AtomDerivation) : Prop where
  scan : ∀ t, scanAtom (ch :: t) = (scanAtom t).map fun p => (select p.1, p.2)
  text : ∀ gap x, (derive gap x).text = ch :: (gap.text ++ x.text)

theorem selects_low : Selects '<' .low .low where
  scan t := by rw [scanAtom, if_neg (by decide), if_pos rfl]
  text _ _ := rfl

theorem selects_high : Selects '>' .high .high where
  scan t := by rw [scanAtom, if_neg (by decide), if_neg (by decide), if_pos rfl]
  text _ _ := rfl

/-- How an atom may start: behind a blank, with a selected byte, or with a leaf. -/
theorem start_cases (ch : Char) :
    isBlank ch = true ∨ (∃ select derive, Selects ch select derive) ∨
      (isBlank ch = false ∧ ch ≠ '<' ∧ ch ≠ '>') := by
  cases isBlank ch with
  | true => exact Or.inl rfl
  | false =>
    by_cases hlow : ch = '<'
    · rw [hlow]
      exact Or.inr (Or.inl ⟨_, _, selects_low⟩)
    · by_cases hhigh : ch = '>'
      · rw [hhigh]
        exact Or.inr (Or.inl ⟨_, _, selects_high⟩)
      · exact Or.inr (Or.inr ⟨rfl, hlow, hhigh⟩)

theorem scanAtom_of_scanLeaf?_eq_none {ch : Char} (hblank : isBlank ch = false) (hlow : ch ≠ '<')
    (hhigh : ch ≠ '>') (h : scanLeaf? (ch :: t) = none) :
    scanAtom (ch :: t) = .error (ch :: t) := by
  rw [scanAtom, if_neg (by simp [hblank]), if_neg hlow, if_neg hhigh, h]

theorem scanExpr_of_error (ha : scanAtom t = .error r) : scanExpr t = .error r := by
  rw [scanExpr]
  split
  · next h =>
    rw [ha] at h
    cases h
    rfl
  · next h =>
    rw [ha] at h
    cases h

/-- No operator comes up where a text is cut short. -/
theorem scanOperator?_eq_none_of_shorter (h : scanOperator? r = none) (hr' : r' <+: r) :
    scanOperator? r' = none := by
  induction r' generalizing r with
  | nil => rfl
  | cons ch r' ih =>
    obtain ⟨v, rfl⟩ := hr'
    rw [List.cons_append, scanOperator?] at h
    rw [scanOperator?]
    split
    · next hblank =>
      rw [if_pos hblank] at h
      exact ih h (List.prefix_append r' v)
    · next hblank =>
      rw [if_neg hblank] at h
      exact Option.map_eq_none_iff.mpr (Option.map_eq_none_iff.mp h)

/-- What stands at the start of a text without an operator there, if it is not blank. -/
theorem exists_next_of_scanOperator?_eq_none (h : scanOperator? r = none) (hr : strip r ≠ []) :
    ∃ (gap : Gap) (ch : Char) (u : Text), r = gap.text ++ ch :: u ∧ isBlank ch = false ∧
      Operator.ofSymbol? ch = none := by
  induction r with
  | nil => exact absurd rfl hr
  | cons ch r ih =>
    rw [scanOperator?] at h
    cases hblank : isBlank ch with
    | true =>
      have hstrip : strip (ch :: r) = strip r :=
        Text.strip_append_of_blank (u := [ch]) (List.forall_mem_singleton.mpr hblank)
      rw [hblank, if_pos rfl] at h
      rw [hstrip] at hr
      obtain ⟨gap, d, u, rfl, hd⟩ := ih h hr
      exact ⟨gap.cons ch hblank, d, u, rfl, hd⟩
    | false =>
      rw [hblank, if_neg Bool.false_ne_true] at h
      exact ⟨.none, ch, r, rfl, hblank, Option.map_eq_none_iff.mp h⟩

/-! ## Texts without an atom -/

/-- No atom starts here: the text is empty, or its first character is neither a blank nor a byte
selector nor a word character, nor does it open a numeral. -/
def LacksAtom : Text → Prop
  | [] => True
  | ch :: t => isBlank ch = false ∧ ch ≠ '<' ∧ ch ≠ '>' ∧ isWord ch = false ∧
      (ch = '$' → Stops isHexDigit t) ∧ (ch = '%' → Stops isBinDigit t)

theorem scanLeaf?_eq_none_iff {ch : Char} : scanLeaf? (ch :: t) = none ↔
    isWord ch = false ∧ (ch = '$' → Stops isHexDigit t) ∧ (ch = '%' → Stops isBinDigit t) := by
  unfold scanLeaf?
  split
  · next heq =>
    cases heq
    rw [Option.map_eq_none_iff, Text.run?_eq_none_iff]
    exact ⟨fun h => ⟨by decide, fun _ => h, fun hc => absurd hc (by decide)⟩, fun h => h.2.1 rfl⟩
  · next heq =>
    cases heq
    rw [Option.map_eq_none_iff, Text.run?_eq_none_iff]
    exact ⟨fun h => ⟨by decide, fun hc => absurd hc (by decide), fun _ => h⟩, fun h => h.2.2 rfl⟩
  · next hhex hbin =>
    rw [Option.map_eq_none_iff, Text.run?_eq_none_iff, stops_cons]
    constructor
    · intro h
      refine ⟨h, ?_, ?_⟩
      · rintro rfl
        exact absurd rfl (hhex t)
      · rintro rfl
        exact absurd rfl (hbin t)
    · exact fun h => h.1

theorem scanAtom_of_lacksAtom (h : LacksAtom r) : scanAtom r = .error r := by
  cases r with
  | nil => rfl
  | cons ch r =>
    obtain ⟨hblank, hlow, hhigh, hleaf⟩ := h
    exact scanAtom_of_scanLeaf?_eq_none hblank hlow hhigh (scanLeaf?_eq_none_iff.mpr hleaf)

/-! ## What was read, in front of other texts -/

/-- A run is found again in front of a text that starts with the same character. -/
theorem run?_of_head? {p : Char → Bool} {ds : Text} (h : run? p t = some (ds, r))
    (hr' : r'.head? = r.head?) : run? p (ds ++ r') = some (ds, r') := by
  obtain ⟨-, hne, hall⟩ := eq_append_of_run?_eq_some h
  exact run?_append hall hne ((Text.stops_of_run?_eq_some h).of_head? hr')

theorem exists_consumed_of_scanLeaf? (h : scanLeaf? t = some (a, r)) :
    ∃ c, c ≠ [] ∧ t = c ++ r ∧
      ∀ r' : Text, r'.head? = r.head? → scanLeaf? (c ++ r') = some (a, r') := by
  unfold scanLeaf? at h
  split at h <;> obtain ⟨⟨ds, s⟩, hrun, heq⟩ := Option.map_eq_some_iff.mp h <;> cases heq <;>
    obtain ⟨rfl, hne, hall⟩ := eq_append_of_run?_eq_some hrun
  · refine ⟨'$' :: ds, List.cons_ne_nil _ _, rfl, ?_⟩
    intro r' hr'
    simp only [List.cons_append, scanLeaf?, run?_of_head? hrun hr', Option.map_some]
  · refine ⟨'%' :: ds, List.cons_ne_nil _ _, rfl, ?_⟩
    intro r' hr'
    simp only [List.cons_append, scanLeaf?, run?_of_head? hrun hr', Option.map_some]
  · refine ⟨ds, hne, rfl, ?_⟩
    intro r' hr'
    exact scanLeaf?_word ⟨ds, hne, hall⟩ ((Text.stops_of_run?_eq_some hrun).of_head? hr')

theorem exists_consumed_of_scanAtom_eq_ok (h : scanAtom t = .ok (a, r)) :
    ∃ c, t = c ++ r ∧
      ∀ r' : Text, r'.head? = r.head? → scanAtom (c ++ r') = .ok (a, r') := by
  induction t generalizing a with
  | nil => cases h
  | cons ch t ih =>
    rcases start_cases ch with hblank | ⟨select, derive, hsel⟩ | ⟨hblank, hlow, hhigh⟩
    · rw [scanAtom_blank hblank] at h
      obtain ⟨c, rfl, hc⟩ := ih h
      refine ⟨ch :: c, rfl, ?_⟩
      intro r' hr'
      rw [List.cons_append, scanAtom_blank hblank, hc r' hr']
    · rw [hsel.scan, Outcome.map_eq_ok_iff] at h
      obtain ⟨⟨b, s⟩, hs, heq⟩ := h
      cases heq
      obtain ⟨c, rfl, hc⟩ := ih hs
      refine ⟨ch :: c, rfl, ?_⟩
      intro r' hr'
      rw [List.cons_append, hsel.scan, hc r' hr']
      rfl
    · cases hleaf : scanLeaf? (ch :: t) with
      | none =>
        rw [scanAtom_of_scanLeaf?_eq_none hblank hlow hhigh hleaf] at h
        cases h
      | some p =>
        rw [scanAtom_of_scanLeaf? hblank hlow hhigh hleaf] at h
        cases h
        obtain ⟨c, hne, ht, hc⟩ := exists_consumed_of_scanLeaf? hleaf
        obtain ⟨d, c, rfl⟩ := List.exists_cons_of_ne_nil hne
        obtain ⟨rfl, -⟩ := List.cons.inj ht
        exact ⟨ch :: c, ht, fun r' hr' =>
          scanAtom_of_scanLeaf? hblank hlow hhigh (hc r' hr')⟩

/-- Behind an atom and an operator the rest of the expression can be exchanged. -/
theorem scanExpr_operator_append {left s : Text} {gap : Gap}
    (hleft : ∀ r' : Text, r'.head? = (gap.text ++ o.symbol :: s).head? →
      scanAtom (left ++ r') = .ok (a, r')) (s' : Text) :
    scanExpr (left ++ (gap.text ++ o.symbol :: s')) =
      (scanExpr s').map fun p => (.chain a o p.1, p.2) := by
  have hhead : (gap.text ++ o.symbol :: s').head? = (gap.text ++ o.symbol :: s).head? := by
    cases gap.text <;> rfl
  have hop : scanOperator? (gap.text ++ o.symbol :: s') = some (o, s') := by
    rw [scanOperator?_append_of_blank gap.all_blank, scanOperator?_symbol]
  exact scanExpr_of_operator (hleft _ hhead) hop

/-- What was read as an expression is read in the same way in front of every text that starts with
the same character and offers no operator. -/
theorem exists_consumed_of_scanExpr_eq_ok (h : scanExpr t = .ok (e, r)) :
    scanOperator? r = none ∧ ∃ c, t = c ++ r ∧
      ∀ r' : Text, r'.head? = r.head? → scanOperator? r' = none →
        scanExpr (c ++ r') = .ok (e, r') := by
  fun_induction scanExpr t generalizing e with
  | case1 t s ha => cases h
  | case2 t a s ha ho =>
    cases h
    obtain ⟨c, ht, hc⟩ := exists_consumed_of_scanAtom_eq_ok ha
    exact ⟨ho, c, ht, fun r' hr' ho' => scanExpr_of_atom (hc r' hr') ho'⟩
  | case3 t a s ha o s' ho ih =>
    obtain ⟨⟨e', r''⟩, hs, heq⟩ := Outcome.map_eq_ok_iff.mp h
    cases heq
    obtain ⟨hnone, right, rfl, hright⟩ := ih hs
    obtain ⟨gap, rfl⟩ := exists_gap_of_scanOperator? ho
    obtain ⟨left, rfl, hleft⟩ := exists_consumed_of_scanAtom_eq_ok ha
    refine ⟨hnone, left ++ (gap.text ++ o.symbol :: right), ?_, ?_⟩
    · simp only [List.append_assoc, List.cons_append]
    · intro r' hr' ho'
      simp only [List.append_assoc, List.cons_append]
      rw [scanExpr_operator_append hleft, hright r' hr' ho']
      rfl

/-! ## What lacks an atom, in front of other texts -/

theorem exists_consumed_of_scanAtom_eq_error (h : scanAtom t = .error r) :
    LacksAtom r ∧ ∃ c, t = c ++ r ∧
      (∀ r' : Text, LacksAtom r' → scanAtom (c ++ r') = .error r') ∧
      ∀ x : AtomDerivation,
        ∃ (gap : Gap) (y : AtomDerivation), c ++ x.text = gap.text ++ y.text := by
  induction t with
  | nil =>
    cases h
    exact ⟨trivial, [], rfl, fun r' hr' => scanAtom_of_lacksAtom hr', fun x => ⟨.none, x, rfl⟩⟩
  | cons ch t ih =>
    rcases start_cases ch with hblank | ⟨select, derive, hsel⟩ | ⟨hblank, hlow, hhigh⟩
    · rw [scanAtom_blank hblank] at h
      obtain ⟨hlack, c, rfl, hc, hatom⟩ := ih h
      refine ⟨hlack, ch :: c, rfl, ?_, ?_⟩
      · intro r' hr'
        rw [List.cons_append, scanAtom_blank hblank, hc r' hr']
      · intro x
        obtain ⟨gap, y, hy⟩ := hatom x
        exact ⟨gap.cons ch hblank, y, congrArg (ch :: ·) hy⟩
    · rw [hsel.scan, Outcome.map_eq_error_iff] at h
      obtain ⟨hlack, c, rfl, hc, hatom⟩ := ih h
      refine ⟨hlack, ch :: c, rfl, ?_, ?_⟩
      · intro r' hr'
        rw [List.cons_append, hsel.scan, hc r' hr']
        rfl
      · intro x
        obtain ⟨gap, y, hy⟩ := hatom x
        refine ⟨.none, derive gap y, ?_⟩
        rw [hsel.text, ← hy]
        rfl
    · cases hleaf : scanLeaf? (ch :: t) with
      | some p =>
        rw [scanAtom_of_scanLeaf? hblank hlow hhigh hleaf] at h
        cases h
      | none =>
        rw [scanAtom_of_scanLeaf?_eq_none hblank hlow hhigh hleaf] at h
        cases h
        exact ⟨⟨hblank, hlow, hhigh, scanLeaf?_eq_none_iff.mp hleaf⟩, [], rfl,
          fun r' hr' => scanAtom_of_lacksAtom hr', fun x => ⟨.none, x, rfl⟩⟩

/-- What was consumed when an atom was missing lacks it in front of every text that offers none, and
becomes an expression with any atom behind it. -/
theorem exists_consumed_of_scanExpr_eq_error (h : scanExpr t = .error r) :
    LacksAtom r ∧ ∃ c, t = c ++ r ∧
      (∀ r' : Text, LacksAtom r' → scanExpr (c ++ r') = .error r') ∧
      ∀ x : AtomDerivation,
        ∃ (gap : Gap) (y : ExprDerivation), c ++ x.text = gap.text ++ y.text := by
  fun_induction scanExpr t with
  | case1 t s ha =>
    cases h
    obtain ⟨hlack, c, ht, hc, hatom⟩ := exists_consumed_of_scanAtom_eq_error ha
    refine ⟨hlack, c, ht, fun r' hr' => scanExpr_of_error (hc r' hr'), ?_⟩
    intro x
    obtain ⟨gap, y, hy⟩ := hatom x
    exact ⟨gap, .atom y, hy⟩
  | case2 t a s ha ho => cases h
  | case3 t a s ha o s' ho ih =>
    obtain ⟨hlack, right, rfl, hright, hatom⟩ := ih (Outcome.map_eq_error_iff.mp h)
    obtain ⟨gap, rfl⟩ := exists_gap_of_scanOperator? ho
    obtain ⟨left, rfl, hleft⟩ := exists_consumed_of_scanAtom_eq_ok ha
    obtain ⟨start, x, -, hx⟩ := exists_derivation_of_scanAtom ha
    refine ⟨hlack, left ++ (gap.text ++ o.symbol :: right), ?_, ?_, ?_⟩
    · simp only [List.append_assoc, List.cons_append]
    · intro r' hr'
      simp only [List.append_assoc, List.cons_append]
      rw [scanExpr_operator_append hleft, hright r' hr']
      rfl
    · intro last
      obtain ⟨after, y, hy⟩ := hatom last
      have hstart : left = start.text ++ x.text := by
        rw [← List.append_assoc start.text] at hx
        exact List.append_cancel_right hx
      refine ⟨start, .chain x gap o after y, ?_⟩
      rw [ExprDerivation.text, hstart, ← hy]
      simp only [List.append_assoc, List.cons_append]

/-! ## The halting point of a literal -/

/-- The text is a literal that can be formatted, wherever it stands. -/
def IsLegal (t : Text) : Prop :=
  ∃ out, ∀ location sourceLine, format t location sourceLine = .ok out

theorem isLegal_text (d : Derivation) : IsLegal d.text :=
  ⟨d.expr.render, fun _ _ => format_eq_ok_iff.mpr ⟨d, rfl, rfl⟩⟩

theorem IsLegal.exists_parse (h : IsLegal t) : ∃ x, parse t = .ok x := by
  obtain ⟨out, hout⟩ := h
  obtain ⟨d, rfl, -⟩ := format_eq_ok_iff.mp (hout none none)
  exact ⟨d.expr, parse_text d⟩

/-- Reading the literal `c ++ r` comes to a halt behind `c`. -/
inductive HaltsBehind (c r : Text) : Prop
  /-- A literal ends there.  Something follows that is no operator, and apart from blanks nothing of
  it can be added. -/
  | surplus (legal : IsLegal c)
      (next : ∃ (gap : Gap) (ch : Char) (u : Text), r = gap.text ++ ch :: u ∧
        isBlank ch = false ∧ ch ∉ ['+', '-', '*', '/'])
      (longest : ∀ p : Text, p <+: c ++ r → c.length < p.length → IsLegal p →
        ∃ gap : Gap, p = c ++ gap.text)
  /-- An atom is missing there: what was read is no literal, but any word makes it one. -/
  | missing (illegal : ¬ IsLegal c) (viable : ∀ w : Text, Text.IsWordRun w → IsLegal (c ++ w))
      (next : LacksAtom r)

theorem haltsBehind_of_scanExpr_eq_ok (h : scanExpr t = .ok (e, r)) (hr : strip r ≠ []) :
    ∃ c, t = c ++ r ∧ HaltsBehind c r := by
  obtain ⟨hnone, c, rfl, hc⟩ := exists_consumed_of_scanExpr_eq_ok h
  obtain ⟨before, body, -, heq⟩ := exists_derivation_of_scanExpr h
  have hderived : c = (⟨before, body, .none⟩ : Derivation).text := by
    rw [← List.append_assoc] at heq
    rw [Derivation.text, Gap.text_none, List.append_nil]
    exact List.append_cancel_right heq
  obtain ⟨gap, ch, u, hru, hblank, hsymbol⟩ := exists_next_of_scanOperator?_eq_none hnone hr
  refine ⟨c, rfl, .surplus ?_ ⟨gap, ch, u, hru, hblank, ?_⟩ ?_⟩
  · rw [hderived]
    exact isLegal_text _
  · intro hmem
    simp only [List.mem_cons, List.not_mem_nil, or_false] at hmem
    rcases hmem with rfl | rfl | rfl | rfl <;> cases hsymbol
  · rintro p hp hlength hlegal
    obtain ⟨r', rfl, hr'⟩ : ∃ r', p = c ++ r' ∧ r' <+: r := by
      obtain ⟨r', rfl⟩ := List.prefix_of_prefix_length_le (List.prefix_append c r) hp hlength.le
      exact ⟨r', rfl, (List.prefix_append_right_inj c).mp hp⟩
    -- the longer beginning is read in the same way, so what is left of it must be blank
    have hhead : r'.head? = r.head? := by
      obtain ⟨v, rfl⟩ := hr'
      cases r' with
      | nil =>
        rw [List.append_nil] at hlength
        exact absurd hlength (Nat.lt_irrefl _)
      | cons d r' => rfl
    have hscan := hc r' hhead (scanOperator?_eq_none_of_shorter hnone hr')
    obtain ⟨x, hx⟩ := hlegal.exists_parse
    rw [parse, hscan] at hx
    by_cases hrest : strip r' = []
    · exact ⟨⟨r', Text.strip_eq_nil_iff.mp hrest⟩, rfl⟩
    · simp only [hrest, if_false] at hx
      cases hx

theorem haltsBehind_of_scanExpr_eq_error (h : scanExpr t = .error r) :
    ∃ c, t = c ++ r ∧ HaltsBehind c r := by
  obtain ⟨hlack, c, rfl, hc, hatom⟩ := exists_consumed_of_scanExpr_eq_error h
  refine ⟨c, rfl, .missing ?_ ?_ hlack⟩
  · intro hlegal
    obtain ⟨x, hx⟩ := hlegal.exists_parse
    have hnil := hc [] trivial
    rw [List.append_nil] at hnil
    rw [parse, hnil] at hx
    cases hx
  · intro w hw
    obtain ⟨before, body, heq⟩ := hatom (.word ⟨w, hw.ne_nil, hw.all_word⟩)
    have htext : c ++ w = (⟨before, body, .none⟩ : Derivation).text := by
      rw [Derivation.text, Gap.text_none, List.append_nil]
      exact heq
    rw [htext]
    exact isLegal_text _

/-- The fault of a literal names the point at which reading it came to a halt: it holds the literal
and, without the blanks around it, the rest from that point on. -/
theorem fault_names_halt {t : Text} {location : Option Location} {sourceLine : Option Text}
    {f : Fault} (h : format t location sourceLine = .error f) :
    ∃ c r, t = c ++ r ∧ HaltsBehind c r ∧
      f = { cause := .illegalExpression t (strip r), location, sourceLine } := by
  unfold format at h
  split at h
  · cases h
  · next s hs =>
    cases h
    unfold parse at hs
    split at hs
    · next r hscan =>
      cases hs
      obtain ⟨c, ht, hhalt⟩ := haltsBehind_of_scanExpr_eq_error hscan
      exact ⟨c, r, ht, hhalt, rfl⟩
    · next e r hscan =>
      split at hs
      · cases hs
      · next hr =>
        cases hs
        obtain ⟨c, ht, hhalt⟩ := haltsBehind_of_scanExpr_eq_ok hscan hr
        exact ⟨c, r, ht, hhalt, rfl⟩

/-- One halt where an atom is missing under a selected byte, and one behind a numeral that a letter
follows. -/
theorem fault_names_halt_of_both :
    (format "A + <(B) " none = .error { cause := .illegalExpression "A + <(B) " "(B)" } ∧
      ∃ c r, ("A + <(B) " : Text) = c ++ r ∧ HaltsBehind c r ∧
        ({ cause := .illegalExpression "A + <(B) " "(B)" } : Fault) =
          { cause := .illegalExpression "A + <(B) " (strip r) }) ∧
    (format "$1G" none = .error { cause := .illegalExpression "$1G" "G" } ∧
      ∃ c r, ("$1G" : Text) = c ++ r ∧ HaltsBehind c r ∧
        ({ cause := .illegalExpression "$1G" "G" } : Fault) =
          { cause := .illegalExpression "$1G" (strip r) }) := by
  have hmissing : format "A + <(B) " none =
      .error { cause := .illegalExpression "A + <(B) " "(B)" } := by decide +kernel
  have hsurplus : format "$1G" none = .error { cause := .illegalExpression "$1G" "G" } := by
    decide +kernel
  exact ⟨⟨hmissing, fault_names_halt hmissing⟩, hsurplus, fault_names_halt hsurplus⟩

end Literal

end AsmDispatch
