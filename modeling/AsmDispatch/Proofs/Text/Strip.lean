import AsmDispatch.Proofs.Text.Class
import Mathlib.Data.List.DropRight

/-!
# Stripping takes blanks off the ends

A text is what stripping leaves of it with blanks around, and what is left neither starts nor ends
with a blank.  The two facts determine it, so everything else about stripping follows from them.
-/

namespace AsmDispatch.Text

variable {t u v : Text} {c : Char}

/-! ## The end of a text -/

theorem stops_reverse_stripEnd (t : Text) : Stops isBlank (stripEnd t).reverse := by
  rw [stripEnd, List.reverse_reverse]
  exact stops_dropWhile isBlank t.reverse

/-- What is stripped off the end is blank. -/
theorem exists_eq_stripEnd_append (t : Text) :
    ∃ v, (∀ c ∈ v, isBlank c = true) ∧ t = stripEnd t ++ v :=
  ⟨t.rtakeWhile isBlank, fun _ => List.mem_rtakeWhile_imp,
    List.rdropWhile_append_rtakeWhile.symm⟩

theorem stripEnd_eq_self (h : Stops isBlank t.reverse) : stripEnd t = t := by
  rw [stripEnd, h.dropWhile_eq_self, List.reverse_reverse]

theorem stripEnd_append_of_blank (hv : ∀ c ∈ v, isBlank c = true) :
    stripEnd (t ++ v) = stripEnd t := by
  have hrev : ∀ c ∈ v.reverse, isBlank c = true := fun c hc => hv c (List.mem_reverse.mp hc)
  rw [stripEnd, List.reverse_append, List.dropWhile_append_of_pos hrev, stripEnd]

/-- Nothing in front of a character that is no blank is stripped off the end. -/
theorem stripEnd_append_cons (hc : isBlank c = false) (t u : Text) :
    stripEnd (t ++ c :: u) = t ++ c :: stripEnd u := by
  obtain ⟨v, hv, hu⟩ := exists_eq_stripEnd_append u
  have hstop : Stops isBlank (t ++ c :: stripEnd u).reverse := by
    rw [List.reverse_append, List.reverse_cons, List.append_assoc]
    cases hrev : (stripEnd u).reverse with
    | nil => exact stops_cons.mpr hc
    | cons d r =>
      have hd := stops_reverse_stripEnd u
      rw [hrev] at hd
      exact hd
  calc stripEnd (t ++ c :: u)
      = stripEnd ((t ++ c :: stripEnd u) ++ v) := by
        rw [List.append_assoc, List.cons_append, ← hu]
    _ = t ++ c :: stripEnd u := by rw [stripEnd_append_of_blank hv, stripEnd_eq_self hstop]

theorem stripEnd_eq_nil_iff : stripEnd t = [] ↔ ∀ c ∈ t, isBlank c = true :=
  List.rdropWhile_eq_nil_iff

/-! ## Both ends -/

/-- What is left of a text determines what stripping gives. -/
theorem strip_append_append (hu : ∀ c ∈ u, isBlank c = true) (hv : ∀ c ∈ v, isBlank c = true)
    (hstart : Stops isBlank t) (hend : Stops isBlank t.reverse) : strip (u ++ (t ++ v)) = t := by
  rw [strip_append_of_blank hu]
  cases t with
  | nil => exact strip_eq_nil_iff.mpr hv
  | cons c t =>
    rw [strip, stripStart, hstart.append (List.cons_ne_nil c t) v |>.dropWhile_eq_self,
      stripEnd_append_of_blank hv, stripEnd_eq_self hend]

/-- A text is what stripping leaves of it, with blanks around. -/
theorem exists_eq_append_strip_append (t : Text) :
    ∃ u v, (∀ c ∈ u, isBlank c = true) ∧ (∀ c ∈ v, isBlank c = true) ∧ t = u ++ (strip t ++ v) := by
  obtain ⟨v, hv, hstart⟩ := exists_eq_stripEnd_append (stripStart t)
  refine ⟨t.takeWhile isBlank, v, List.all_eq_true.mp List.all_takeWhile, hv, ?_⟩
  rw [strip, ← hstart, stripStart, List.takeWhile_append_dropWhile]

theorem stops_strip (t : Text) : Stops isBlank (strip t) := by
  obtain ⟨v, -, hstart⟩ := exists_eq_stripEnd_append (stripStart t)
  have hstop := stops_dropWhile isBlank t
  intro c hc
  refine hstop c ?_
  change c ∈ (stripStart t).head?
  rw [hstart]
  exact List.mem_head?_append_of_mem_head? hc

theorem stops_reverse_strip (t : Text) : Stops isBlank (strip t).reverse :=
  stops_reverse_stripEnd (stripStart t)

@[simp] theorem strip_strip (t : Text) : strip (strip t) = strip t :=
  strip_eq_self (stops_strip t) (stops_reverse_strip t)

theorem strip_append_of_blank_right (hv : ∀ c ∈ v, isBlank c = true) :
    strip (t ++ v) = strip t := by
  obtain ⟨u, w, hu, hw, ht⟩ := exists_eq_append_strip_append t
  have hwv : ∀ c ∈ w ++ v, isBlank c = true := List.forall_mem_append.mpr ⟨hw, hv⟩
  calc strip (t ++ v)
      = strip (u ++ (strip t ++ (w ++ v))) := by
        conv_lhs => rw [ht]
        simp only [List.append_assoc]
    _ = strip t := strip_append_append hu hwv (stops_strip t) (stops_reverse_strip t)

@[simp] theorem strip_stripEnd (t : Text) : strip (stripEnd t) = strip t := by
  obtain ⟨v, hv, ht⟩ := exists_eq_stripEnd_append t
  conv_rhs => rw [ht, strip_append_of_blank_right hv]

end AsmDispatch.Text
