import AsmDispatch.Literal.Scan
import Mathlib.Data.List.TakeWhile

/-!
# Classes of characters and runs of them

The scanners take the longest run of one class of characters and go on behind it.  A run is found
again as it was written when the text behind it does not start with a character of the class; this
file says so for `run?` and for stripping, and tells apart the classes that literals are made of.
-/

namespace AsmDispatch.Text

/-- The text does not start with a character of the class. -/
def Stops (p : Char → Bool) (t : Text) : Prop := ∀ c ∈ t.head?, p c = false

section Runs

variable {p q : Char → Bool} {t u u' r r' : Text}

@[simp] theorem stops_nil : Stops p [] := by simp [Stops]

@[simp] theorem stops_cons {c : Char} : Stops p (c :: t) ↔ p c = false := by simp [Stops]

/-- A text that stops a class stops every smaller one. -/
theorem Stops.mono (h : Stops p t) (hpq : ∀ c, q c = true → p c = true) : Stops q t := by
  intro c hc
  cases hq : q c with
  | false => rfl
  | true => exact absurd (hpq c hq) (by simp [h c hc])

theorem stops_of_forall (h : ∀ c ∈ t, p c = false) : Stops p t :=
  fun c hc => h c (List.mem_of_mem_head? hc)

theorem stops_reverse_of_forall (h : ∀ c ∈ t, p c = false) : Stops p t.reverse :=
  stops_of_forall fun c hc => h c (List.mem_reverse.mp hc)

theorem Stops.append (h : Stops p t) (hne : t ≠ []) (r : Text) : Stops p (t ++ r) := by
  obtain ⟨c, t, rfl⟩ := List.exists_cons_of_ne_nil hne
  exact h

theorem Stops.takeWhile_eq_nil (h : Stops p t) : t.takeWhile p = [] := by
  cases t with
  | nil => rfl
  | cons c t => simp [stops_cons.mp h]

theorem Stops.dropWhile_eq_self (h : Stops p t) : t.dropWhile p = t := by
  cases t with
  | nil => rfl
  | cons c t => simp [stops_cons.mp h]

theorem stops_dropWhile (p : Char → Bool) (t : Text) : Stops p (t.dropWhile p) := by
  induction t with
  | nil => exact stops_nil
  | cons c t ih =>
    cases hc : p c with
    | true =>
      rw [List.dropWhile_cons_of_pos hc]
      exact ih
    | false =>
      rw [List.dropWhile_cons_of_neg (Bool.eq_false_iff.mp hc)]
      exact stops_cons.mpr hc

theorem takeWhile_append_stops (hu : ∀ c ∈ u, p c = true) (hr : Stops p r) :
    (u ++ r).takeWhile p = u := by
  rw [List.takeWhile_append_of_pos hu, hr.takeWhile_eq_nil, List.append_nil]

theorem dropWhile_append_stops (hu : ∀ c ∈ u, p c = true) (hr : Stops p r) :
    (u ++ r).dropWhile p = r := by
  rw [List.dropWhile_append_of_pos hu, hr.dropWhile_eq_self]

/-- A text splits in one way only into characters of the class and a text that stops it. -/
theorem append_inj_of_stops (hu : ∀ c ∈ u, p c = true) (hu' : ∀ c ∈ u', p c = true)
    (hr : Stops p r) (hr' : Stops p r') (h : u ++ r = u' ++ r') : u = u' ∧ r = r' := by
  constructor
  · rw [← takeWhile_append_stops hu hr, h, takeWhile_append_stops hu' hr']
  · rw [← dropWhile_append_stops hu hr, h, dropWhile_append_stops hu' hr']

theorem run?_append (hu : ∀ c ∈ u, p c = true) (hne : u ≠ []) (hr : Stops p r) :
    run? p (u ++ r) = some (u, r) := by
  unfold run?
  rw [takeWhile_append_stops hu hr, dropWhile_append_stops hu hr]
  cases u with
  | nil => exact absurd rfl hne
  | cons c u => rfl

theorem eq_append_of_run?_eq_some (h : run? p t = some (u, r)) :
    t = u ++ r ∧ u ≠ [] ∧ ∀ c ∈ u, p c = true := by
  unfold run? at h
  split at h
  · cases h
  · next hne =>
    simp only [Option.some.injEq, Prod.mk.injEq] at h
    obtain ⟨rfl, rfl⟩ := h
    refine ⟨List.takeWhile_append_dropWhile.symm, hne, ?_⟩
    exact fun c hc => List.all_eq_true.mp List.all_takeWhile c hc

end Runs

/-- One or more word characters. -/
structure IsWordRun (t : Text) : Prop where
  ne_nil : t ≠ []
  all_word : ∀ c ∈ t, isWord c = true

theorem isWordRun_of_run?_eq_some {t u r : Text} (h : run? isWord t = some (u, r)) :
    IsWordRun u := by
  obtain ⟨-, hne, hall⟩ := eq_append_of_run?_eq_some h
  exact ⟨hne, hall⟩

/-! ## Stripping -/

theorem strip_eq_nil_iff {t : Text} : strip t = [] ↔ ∀ c ∈ t, isBlank c = true := by
  unfold strip stripEnd stripStart
  constructor
  · intro h c hc
    rw [List.reverse_eq_nil_iff, List.dropWhile_eq_nil_iff] at h
    have hall : ∀ x ∈ t.dropWhile isBlank, isBlank x = true := fun x hx =>
      h x (List.mem_reverse.mpr hx)
    rw [← List.takeWhile_append_dropWhile (p := isBlank) (l := t), List.mem_append] at hc
    rcases hc with hc | hc
    · exact List.all_eq_true.mp List.all_takeWhile c hc
    · exact hall c hc
  · intro h
    rw [List.dropWhile_eq_nil_iff.mpr h]
    rfl

/-- Only blanks at the ends are stripped. -/
theorem strip_eq_self {t : Text} (hstart : Stops isBlank t) (hend : Stops isBlank t.reverse) :
    strip t = t := by
  unfold strip stripEnd stripStart
  rw [hstart.dropWhile_eq_self, hend.dropWhile_eq_self, List.reverse_reverse]

theorem strip_append_of_blank {u t : Text} (hu : ∀ c ∈ u, isBlank c = true) :
    strip (u ++ t) = strip t := by
  unfold strip stripStart
  rw [List.dropWhile_append_of_pos hu]

/-! ## Pieces -/

theorem pieces_append {sep : Char} {u : Text} (hu : sep ∉ u) (t : Text) :
    pieces sep (u ++ sep :: t) = u :: pieces sep t := by
  induction u with
  | nil => rw [List.nil_append, pieces, if_pos rfl]
  | cons c u ih =>
    obtain ⟨hc, htail⟩ := not_or.mp (List.mem_cons.not.mp hu)
    rw [List.cons_append, pieces, if_neg (Ne.symm hc), ih htail]

/-! ## Classes that exclude each other -/

/-- The code points of a set of ranges, one by one. -/
def Ranges.codes (rs : Ranges) : List Nat := rs.flatMap fun r => List.range' r.1 (r.2 + 1 - r.1)

theorem Ranges.mem_codes_iff {rs : Ranges} {n : Nat} : n ∈ rs.codes ↔ rs.has n = true := by
  rw [Ranges.has_eq_true_iff, Ranges.codes, List.mem_flatMap]
  refine exists_congr fun r => and_congr_right fun _ => ?_
  rw [List.mem_range'_1]
  omega

/-- No blank is part of a word. -/
theorem isWord_eq_false_of_isBlank {c : Char} (h : isBlank c = true) : isWord c = false := by
  have hall : blanks.codes.all (fun n => !isWord (Char.ofNat n)) = true := by decide +kernel
  have hmem := List.all_eq_true.mp hall c.toNat (Ranges.mem_codes_iff.mpr h)
  rw [Char.ofNat_toNat] at hmem
  simpa using hmem

theorem isBlank_eq_false_of_isWord {c : Char} (h : isWord c = true) : isBlank c = false := by
  cases hb : isBlank c with
  | false => rfl
  | true => exact absurd h (by simp [isWord_eq_false_of_isBlank hb])

/-- Blanks end a word as well as what follows them does. -/
theorem stopsWord_append_of_blank {u t : Text} (hu : ∀ c ∈ u, isBlank c = true)
    (ht : Stops isWord t) : Stops isWord (u ++ t) := by
  cases u with
  | nil => exact ht
  | cons c u => exact stops_cons.mpr (isWord_eq_false_of_isBlank (hu c List.mem_cons_self))

end AsmDispatch.Text

namespace AsmDispatch.Literal

open Text (isBlank isWord)

/-- The hexadecimal digits one by one, so that facts about them can be checked. -/
def hexDigits : List Char := "0123456789abcdefABCDEF".toList

theorem mem_hexDigits {c : Char} (h : isHexDigit c = true) : c ∈ hexDigits := by
  have hrange : (48 ≤ c.toNat ∧ c.toNat ≤ 57) ∨ (97 ≤ c.toNat ∧ c.toNat ≤ 102) ∨
      (65 ≤ c.toNat ∧ c.toNat ≤ 70) := by
    simp only [isHexDigit, Char.isDigit, Bool.or_eq_true, Bool.and_eq_true, decide_eq_true_eq,
      Char.le_def, UInt32.le_iff_toNat_le, ge_iff_le] at h
    rcases h with (h | h) | h
    · exact Or.inl h
    · exact Or.inr (Or.inl h)
    · exact Or.inr (Or.inr h)
  have hall : (List.range' 48 10 ++ List.range' 97 6 ++ List.range' 65 6).all
      (fun n => hexDigits.contains (Char.ofNat n)) = true := by decide
  have hmem := List.all_eq_true.mp hall c.toNat (by
    simp only [List.mem_append, List.mem_range'_1]
    omega)
  rw [Char.ofNat_toNat] at hmem
  simpa using hmem

/-- What holds of the digits one by one holds of every hexadecimal digit. -/
theorem of_isHexDigit {p : Char → Bool} (hall : hexDigits.all p = true) {c : Char}
    (h : isHexDigit c = true) : p c = true :=
  List.all_eq_true.mp hall c (mem_hexDigits h)

theorem isWord_of_isHexDigit {c : Char} (h : isHexDigit c = true) : isWord c = true :=
  of_isHexDigit (by decide) h

theorem isHexDigit_of_isBinDigit {c : Char} (h : isBinDigit c = true) : isHexDigit c = true := by
  simp only [isBinDigit, Bool.or_eq_true, beq_iff_eq] at h
  rcases h with rfl | rfl <;> decide

@[simp] theorem Operator.isWord_symbol (o : Operator) : isWord o.symbol = false := by
  cases o <;> decide

@[simp] theorem Operator.isBlank_symbol (o : Operator) : isBlank o.symbol = false := by
  cases o <;> decide

end AsmDispatch.Literal
