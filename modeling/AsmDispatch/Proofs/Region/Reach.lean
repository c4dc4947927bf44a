import AsmDispatch.Proofs.Region.Ownership

/-!
# Data across a gap

A program is cut in two, and a line that is neither a label nor a byte directive is put into the
gap.  A label in front of the gap reaches over it if it finds its data behind, with nothing but
labels up to the gap, or if its bytes go on there.  Such a label loses its data, or a part of them,
to the line in the gap; if there is no such label, the line makes no difference.

## Main statements

* `Region.exists_analyze_append_cons`: what the analysis finds if no label reaches over the gap.
* `Region.regions_append_cons_ne`: otherwise it finds less.
* `Line.joined_of_reaches`: the lines next to the gap tell when no label can reach over it.
-/

namespace AsmDispatch

namespace Line

variable {xs ys : List Line} {c : Line}

/-- Whether a label in front of `xs` finds data in `ys`. -/
def reachesOver (xs ys : List Line) : Bool :=
  xs.all isLabel && leadToData ys || xs.all isByteData && ys.head?.any isByteData

/-- Whether some label of `xs` finds data in `ys`. -/
def reaches : List Line → List Line → Bool
  | [], _ => false
  | x :: xs, ys => x.isLabel && reachesOver xs ys || reaches xs ys

theorem leadToData_cons_of_not (hc : c.isLabel = false) (ls : List Line) :
    leadToData (c :: ls) = c.isByteData := by
  rw [leadToData, List.dropWhile_cons_of_neg (Bool.eq_false_iff.mp hc)]
  rfl

theorem leadToData_append_of_all (hxs : xs.all isLabel = true) (ys : List Line) :
    leadToData (xs ++ ys) = leadToData ys := by
  rw [leadToData, List.dropWhile_append_of_pos (List.all_eq_true.mp hxs), leadToData]

theorem leadToData_of_head? (hys : ys.head?.any isByteData = true) : leadToData ys = true := by
  cases ys with
  | nil => cases hys
  | cons y ys => exact leadToData_cons_of_isByteData hys ys

theorem exists_head?_of_leadToData (hys : leadToData ys = true) :
    ∃ y, ys.head? = some y ∧ (y.isLabel = true ∨ y.isByteData = true) := by
  cases ys with
  | nil => cases hys
  | cons y ys =>
    refine ⟨y, rfl, ?_⟩
    by_cases hy : y.isLabel = true
    · exact Or.inl hy
    · rw [leadToData_cons_of_not (Bool.eq_false_iff.mpr hy)] at hys
      exact Or.inr hys

/-- Unless data behind the gap are reached through labels, the line in the gap hides none. -/
theorem leadToData_append_cons (hlabel : c.isLabel = false) (hbytes : c.isByteData = false)
    (h : xs.all isLabel = true → leadToData ys = false) :
    leadToData (xs ++ c :: ys) = leadToData (xs ++ ys) := by
  induction xs with
  | nil =>
    rw [List.nil_append, leadToData_cons_of_not hlabel, hbytes]
    exact (h rfl).symm
  | cons x xs ih =>
    rw [List.cons_append, List.cons_append]
    by_cases hx : x.isLabel = true
    · rw [leadToData_cons_of_isLabel hx, leadToData_cons_of_isLabel hx]
      refine ih fun hxs => h ?_
      rw [List.all_cons, hx, hxs]
      rfl
    · rw [leadToData_cons_of_not (Bool.eq_false_iff.mpr hx),
        leadToData_cons_of_not (Bool.eq_false_iff.mpr hx)]

/-- Unless bytes go on behind the gap, the line in the gap cuts none off. -/
theorem takeWhile_append_cons (hbytes : c.isByteData = false)
    (h : xs.all isByteData = true → ys.head?.any isByteData = false) :
    (xs ++ c :: ys).takeWhile isByteData = (xs ++ ys).takeWhile isByteData := by
  induction xs with
  | nil =>
    rw [List.nil_append, List.nil_append, List.takeWhile_cons_of_neg (Bool.eq_false_iff.mp hbytes)]
    cases ys with
    | nil => rfl
    | cons y ys =>
      have hy : y.isByteData = false := h rfl
      rw [List.takeWhile_cons_of_neg (Bool.eq_false_iff.mp hy)]
  | cons x xs ih =>
    rw [List.cons_append, List.cons_append]
    by_cases hx : x.isByteData = true
    · rw [List.takeWhile_cons_of_pos hx, List.takeWhile_cons_of_pos hx, ih]
      intro hxs
      refine h ?_
      rw [List.all_cons, hx, hxs]
      rfl
    · rw [List.takeWhile_cons_of_neg hx, List.takeWhile_cons_of_neg hx]

/-! ## The lines next to the gap -/

/-- Whether the lines next to the gap may belong together: a label and a label or a byte directive
behind it, or two byte directives. -/
def joined (xs ys : List Line) : Bool :=
  match xs.getLast?, ys.head? with
  | some x, some y => x.isLabel && (y.isLabel || y.isByteData) || x.isByteData && y.isByteData
  | _, _ => false

theorem joined_eq_true_iff :
    joined xs ys = true ↔ ∃ x y, xs.getLast? = some x ∧ ys.head? = some y ∧
      (x.isLabel = true ∧ (y.isLabel = true ∨ y.isByteData = true) ∨
        x.isByteData = true ∧ y.isByteData = true) := by
  unfold joined
  cases xs.getLast? with
  | none => simp
  | some x =>
    cases ys.head? with
    | none => simp
    | some y => simp

theorem joined_cons_of_reachesOver {x : Line} (hx : x.isLabel = true)
    (h : reachesOver xs ys = true) : joined (x :: xs) ys = true := by
  obtain ⟨m, hm⟩ : ∃ m, (x :: xs).getLast? = some m :=
    ⟨_, List.getLast?_eq_some_getLast (List.cons_ne_nil x xs)⟩
  have hmem := List.mem_cons.mp (List.mem_of_getLast? hm)
  rw [reachesOver, Bool.or_eq_true, Bool.and_eq_true, Bool.and_eq_true, List.all_eq_true,
    List.all_eq_true] at h
  rw [joined_eq_true_iff]
  rcases h with ⟨hxs, hys⟩ | ⟨hxs, hys⟩
  · obtain ⟨y, hy, hkind⟩ := exists_head?_of_leadToData hys
    refine ⟨m, y, hm, hy, Or.inl ⟨?_, hkind⟩⟩
    rcases hmem with rfl | hmem
    · exact hx
    · exact hxs m hmem
  · obtain ⟨y, hy, hdata⟩ := (Option.any_eq_true _ _).mp hys
    refine ⟨m, y, hm, hy, ?_⟩
    rcases hmem with rfl | hmem
    · exact Or.inl ⟨hx, Or.inr hdata⟩
    · exact Or.inr ⟨hxs m hmem, hdata⟩

/-- A label reaches over the gap only if the lines next to it may belong together. -/
theorem joined_of_reaches (h : reaches xs ys = true) : joined xs ys = true := by
  induction xs with
  | nil => cases h
  | cons x xs ih =>
    rw [reaches, Bool.or_eq_true, Bool.and_eq_true] at h
    rcases h with ⟨hx, hover⟩ | htail
    · exact joined_cons_of_reachesOver hx hover
    · cases xs with
      | nil => cases htail
      | cons x' xs =>
        have hjoined := ih htail
        rw [joined, List.getLast?_cons_cons]
        exact hjoined

end Line

namespace Region

variable {xs ys ls : List Line} {c : Line}

theorem itemsBehind?_append_cons (hlabel : c.isLabel = false) (hbytes : c.isByteData = false)
    (h : Line.reachesOver xs ys = false) :
    itemsBehind? (xs ++ c :: ys) = itemsBehind? (xs ++ ys) := by
  rw [Line.reachesOver, Bool.or_eq_false_iff] at h
  have hleads : xs.all Line.isLabel = true → Line.leadToData ys = false := by
    intro hxs
    rw [hxs, Bool.true_and] at h
    exact h.1
  have hrun : xs.all Line.isByteData = true → ys.head?.any Line.isByteData = false := by
    intro hxs
    rw [hxs, Bool.true_and] at h
    exact h.2
  rw [itemsBehind?_eq, itemsBehind?_eq, Line.leadToData_append_cons hlabel hbytes hleads,
    Line.takeWhile_append_cons hbytes hrun]

/-- If no label reaches over the gap, the line there is left alone and all others become what they
become without it. -/
theorem exists_analyze_append_cons (hlabel : c.isLabel = false) (hbytes : c.isByteData = false)
    (h : Line.reaches xs ys = false) (a : Int) :
    ∃ xs' ys' rs, analyze a (xs ++ ys) = (xs' ++ ys', rs) ∧
      analyze a (xs ++ c :: ys) = (xs' ++ c :: ys', rs) ∧ xs'.length = xs.length ∧
      Line.slotCount xs' = Line.slotCount xs := by
  induction xs generalizing a with
  | nil =>
    refine ⟨[], (analyze a ys).1, (analyze a ys).2, rfl, ?_, rfl, rfl⟩
    exact analyze_cons_of_none (Or.inl hlabel) a
  | cons x xs ih =>
    rw [Line.reaches, Bool.or_eq_false_iff] at h
    obtain ⟨hover, htail⟩ := h
    have hitems : x.isLabel = true → itemsBehind? (xs ++ c :: ys) = itemsBehind? (xs ++ ys) := by
      intro hx
      rw [hx, Bool.true_and] at hover
      exact itemsBehind?_append_cons hlabel hbytes hover
    -- the label in front, if it is one, has the same data with the line and without
    rcases none_or_data x (xs ++ ys) with hnone | ⟨d, items, hd, hsome⟩
    · obtain ⟨xs', ys', rs, hwithout, hwith, hlength, hcount⟩ := ih htail a
      have hnone' : x.isLabel = false ∨ itemsBehind? (xs ++ c :: ys) = none := by
        cases hx : x.isLabel with
        | false => exact Or.inl rfl
        | true => exact Or.inr ((hitems hx).trans (hnone.resolve_left (by simp [hx])))
      refine ⟨x :: xs', ys', rs, ?_, ?_, congrArg (· + 1) hlength, ?_⟩
      · rw [List.cons_append, analyze_cons_of_none hnone, hwithout, List.cons_append]
      · rw [List.cons_append, analyze_cons_of_none hnone', hwith, List.cons_append]
      · simp only [Line.slotCount, List.countP_cons] at hcount ⊢
        rw [hcount]
    · have hsome' := (hitems (Line.isLabel_of_record hd)).trans hsome
      obtain ⟨xs', ys', rs, hwithout, hwith, hlength, hcount⟩ := ih htail (a + items.length)
      refine ⟨placed x d a :: xs', ys', ofLabel x d a items :: rs, ?_, ?_,
        congrArg (· + 1) hlength, ?_⟩
      · rw [List.cons_append, analyze_cons_of_data hd hsome, hwithout, List.cons_append]
      · rw [List.cons_append, analyze_cons_of_data hd hsome', hwith, List.cons_append]
      · have hplaced : (placed x d a).isInstruction = x.isInstruction := by
          simp [Line.isInstruction, placed, hd]
        simp only [Line.slotCount, List.countP_cons, hplaced] at hcount ⊢
        rw [hcount]

/-! ## What is lost -/

/-- The number of items behind a label, counting the label itself; none if it has no data. -/
def weight (ls : List Line) : Nat :=
  (itemsBehind? ls).elim 0 (·.length + 1)

/-- The number of labels with data and of the items that they own. -/
def totalWeight : List Line → Nat
  | [] => 0
  | l :: ls => (if l.isLabel then weight ls else 0) + totalWeight ls

theorem length_add_totalSize_analyze (a : Int) (ls : List Line) :
    (analyze a ls).2.length + totalSize (analyze a ls).2 = totalWeight ls := by
  induction ls generalizing a with
  | nil => rfl
  | cons l ls ih =>
    rcases none_or_data l ls with hnone | ⟨d, items, hd, hitems⟩
    · have hweight : (if l.isLabel then weight ls else 0) = 0 := by
        rcases hnone with hl | hitems
        · rw [hl, if_neg Bool.false_ne_true]
        · rw [weight, hitems]
          exact ite_self 0
      rw [analyze_cons_of_none hnone, totalWeight, hweight, Nat.zero_add]
      exact ih a
    · rw [analyze_cons_of_data hd hitems, totalWeight, if_pos (Line.isLabel_of_record hd), weight,
        hitems, ← ih (a + items.length)]
      change (_ + 1) + (items.length + _) = (items.length + 1) + _
      omega

/-- A label that reaches over the gap loses by the line there. -/
theorem weight_append_cons_lt (hlabel : c.isLabel = false) (hbytes : c.isByteData = false)
    (h : Line.reachesOver xs ys = true) : weight (xs ++ c :: ys) < weight (xs ++ ys) := by
  have hgap : Line.leadToData (c :: ys) = false := by
    rw [Line.leadToData_cons_of_not hlabel, hbytes]
  rw [Line.reachesOver, Bool.or_eq_true, Bool.and_eq_true, Bool.and_eq_true] at h
  rw [weight, weight, itemsBehind?_eq, itemsBehind?_eq (xs ++ ys)]
  rcases h with ⟨hxs, hys⟩ | ⟨hxs, hys⟩
  · rw [Line.leadToData_append_of_all hxs, hgap, Line.leadToData_append_of_all hxs, hys]
    exact Nat.succ_pos _
  · have hleads : Line.leadToData (xs ++ ys) = true := by
      refine Line.leadToData_of_head? ?_
      cases xs with
      | nil => exact hys
      | cons x xs => exact List.all_eq_true.mp hxs x List.mem_cons_self
    have hcut : (xs ++ c :: ys).takeWhile Line.isByteData = xs := by
      rw [List.takeWhile_append_of_pos (List.all_eq_true.mp hxs),
        List.takeWhile_cons_of_neg (Bool.eq_false_iff.mp hbytes), List.append_nil]
    have hbehind : 0 < ((ys.takeWhile Line.isByteData).flatMap itemsOf).length := by
      refine List.length_pos_iff.mpr ((flatMap_itemsOf_ne_nil_iff ys).mpr ?_)
      rw [← List.head?_eq_getElem?]
      exact hys
    rw [hleads, if_pos rfl, hcut, List.takeWhile_append_of_pos (List.all_eq_true.mp hxs),
      List.flatMap_append, Option.elim_some, List.length_append]
    split
    · rw [Option.elim_some]
      omega
    · exact Nat.succ_pos _

theorem weight_append_cons_le (hlabel : c.isLabel = false) (hbytes : c.isByteData = false)
    (xs ys : List Line) : weight (xs ++ c :: ys) ≤ weight (xs ++ ys) := by
  cases h : Line.reachesOver xs ys with
  | true => exact Nat.le_of_lt (weight_append_cons_lt hlabel hbytes h)
  | false =>
    rw [weight, itemsBehind?_append_cons hlabel hbytes h]
    exact Nat.le_refl _

theorem totalWeight_append_cons_le (hlabel : c.isLabel = false) (hbytes : c.isByteData = false)
    (xs ys : List Line) : totalWeight (xs ++ c :: ys) ≤ totalWeight (xs ++ ys) := by
  induction xs with
  | nil =>
    rw [List.nil_append, totalWeight, hlabel, if_neg Bool.false_ne_true, Nat.zero_add]
    exact Nat.le_refl _
  | cons x xs ih =>
    rw [List.cons_append, totalWeight, List.cons_append, totalWeight]
    refine Nat.add_le_add ?_ ih
    split
    · exact weight_append_cons_le hlabel hbytes xs ys
    · exact Nat.le_refl 0

theorem totalWeight_append_cons_lt (hlabel : c.isLabel = false) (hbytes : c.isByteData = false)
    (h : Line.reaches xs ys = true) : totalWeight (xs ++ c :: ys) < totalWeight (xs ++ ys) := by
  induction xs with
  | nil => cases h
  | cons x xs ih =>
    rw [Line.reaches, Bool.or_eq_true, Bool.and_eq_true] at h
    rw [List.cons_append, totalWeight, List.cons_append, totalWeight]
    rcases h with ⟨hx, hover⟩ | htail
    · rw [if_pos hx, if_pos hx]
      exact Nat.add_lt_add_of_lt_of_le (weight_append_cons_lt hlabel hbytes hover)
        (totalWeight_append_cons_le hlabel hbytes xs ys)
    · refine Nat.add_lt_add_of_le_of_lt ?_ (ih htail)
      split
      · exact weight_append_cons_le hlabel hbytes xs ys
      · exact Nat.le_refl 0

/-- If a label reaches over the gap, the regions with the line there are others. -/
theorem regions_append_cons_ne (hlabel : c.isLabel = false) (hbytes : c.isByteData = false)
    (h : Line.reaches xs ys = true) (a : Int) :
    (analyze a (xs ++ c :: ys)).2 ≠ (analyze a (xs ++ ys)).2 := by
  intro heq
  have hlt := totalWeight_append_cons_lt hlabel hbytes h
  rw [← length_add_totalSize_analyze a, heq, length_add_totalSize_analyze] at hlt
  exact Nat.lt_irrefl _ hlt

end Region

end AsmDispatch
