import AsmDispatch.Proofs.Line.Stamp

/-!
# The last label of a name

Of several labels of one name the last one counts.  Whether it names data is seen from the lines
behind it: the first one that is no label has to be a byte directive.  The analysis flags exactly
those labels, and puts one region into the list for each of them.

## Main statements

* `Line.exists_isLastLabel`: a name that has labels has a last one.
* `Region.analyze_of_isLastLabel_code`, `Region.analyze_of_isLastLabel_data`: what the analysis
  makes of the last label of a name.
-/

namespace AsmDispatch

namespace Line

variable {ls before behind : List Line} {l : Line} {name : Text}

/-- The line is the last label of a name in a program, with `before` in front of it. -/
structure IsLastLabel (ls : List Line) (name : Text) (before : List Line) (l : Line)
    (behind : List Line) : Prop where
  eq_append : ls = before ++ l :: behind
  labelName : l.labelName? = some name
  not_mem_behind : name ∉ labelNames behind

theorem mem_labelNames_iff : name ∈ labelNames ls ↔ ∃ l ∈ ls, l.labelName? = some name :=
  List.mem_filterMap

theorem labelNames_eq_map_labels (ls : List Line) : labelNames ls = (labels ls).map Prod.snd := by
  have hname : labelName? = fun l => l.label?.map Prod.snd := by
    funext l
    unfold labelName? label?
    cases l.record <;> rfl
  rw [labelNames, hname, labels, List.map_filterMap]

theorem exists_isLastLabel (hname : name ∈ labelNames ls) :
    ∃ before l behind, IsLastLabel ls name before l behind := by
  induction ls with
  | nil => cases hname
  | cons l ls ih =>
    by_cases htail : name ∈ labelNames ls
    · obtain ⟨before, m, behind, hm⟩ := ih htail
      refine ⟨l :: before, m, behind, ?_, hm.labelName, hm.not_mem_behind⟩
      rw [hm.eq_append, List.cons_append]
    · obtain ⟨m, hm, hmname⟩ := mem_labelNames_iff.mp hname
      rcases List.mem_cons.mp hm with rfl | hm
      · exact ⟨[], m, ls, rfl, hmname, htail⟩
      · exact absurd (mem_labelNames_iff.mpr ⟨m, hm, hmname⟩) htail

theorem exists_label_of_labelName? (hname : l.labelName? = some name) :
    ∃ d, l.record = .label d ∧ d.name = name := by
  unfold labelName? at hname
  split at hname
  · next d hd => exact ⟨d, hd, Option.some.inj hname⟩
  · cases hname

theorem exists_label_of_isLabel (h : l.isLabel = true) : ∃ d, l.record = .label d := by
  unfold isLabel at h
  split at h
  · next d hd => exact ⟨d, hd⟩
  · cases h

theorem isLabel_of_record {d : Label} (h : l.record = .label d) : l.isLabel = true := by
  rw [isLabel, h]

theorem IsLastLabel.mem (h : IsLastLabel ls name before l behind) : l ∈ ls := by
  rw [h.eq_append]
  exact List.mem_append_right _ List.mem_cons_self

theorem IsLastLabel.mem_labelNames (h : IsLastLabel ls name before l behind) :
    name ∈ labelNames ls :=
  mem_labelNames_iff.mpr ⟨l, h.mem, h.labelName⟩

/-- The first of the lines that is no label is a byte directive. A label in front of such lines
names data. -/
def leadToData (ls : List Line) : Bool := (ls.dropWhile isLabel).head?.any isByteData

theorem isLabel_eq_false_of_isByteData (h : l.isByteData = true) : l.isLabel = false := by
  unfold isByteData at h
  split at h
  · next d hd => simp [isLabel, hd]
  · cases h

theorem not_isByteData_of_isLabel (h : l.isLabel = true) : ¬ l.isByteData = true := by
  intro hdata
  rw [isLabel_eq_false_of_isByteData hdata] at h
  cases h

theorem leadToData_cons_of_isLabel (h : l.isLabel = true) (ls : List Line) :
    leadToData (l :: ls) = leadToData ls := by
  rw [leadToData, List.dropWhile_cons_of_pos h, leadToData]

theorem leadToData_cons_of_isByteData (h : l.isByteData = true) (ls : List Line) :
    leadToData (l :: ls) = true := by
  have hnot : ¬ l.isLabel = true := Bool.eq_false_iff.mp (isLabel_eq_false_of_isByteData h)
  rw [leadToData, List.dropWhile_cons_of_neg hnot]
  exact h

end Line

namespace Region

variable {ls before behind : List Line} {l : Line} {name : Text} {a : Int}

/-- A label has data if the lines behind it lead to some, and owns those that follow at once. -/
theorem itemsBehind?_eq (ls : List Line) :
    itemsBehind? ls = if Line.leadToData ls then
      some ((ls.takeWhile Line.isByteData).flatMap itemsOf) else none := by
  unfold itemsBehind?
  cases ls with
  | nil => rfl
  | cons l ls =>
    by_cases hl : l.isByteData = true
    · rw [Line.leadToData_cons_of_isByteData hl, List.takeWhile_cons_of_pos hl]
      rfl
    · rw [List.takeWhile_cons_of_neg hl]
      rfl

theorem isSome_itemsBehind? (ls : List Line) : (itemsBehind? ls).isSome = Line.leadToData ls := by
  rw [itemsBehind?_eq]
  cases Line.leadToData ls <;> rfl

theorem itemsBehind?_eq_none_iff : itemsBehind? ls = none ↔ Line.leadToData ls = false := by
  rw [← isSome_itemsBehind?, Option.isSome_eq_false_iff, Option.isNone_iff_eq_none]

theorem exists_itemsBehind?_iff :
    (∃ items, itemsBehind? ls = some items) ↔ Line.leadToData ls = true := by
  rw [← isSome_itemsBehind?, Option.isSome_iff_exists]

/-- The items that a label owns depend on nothing but the kinds and the items of the lines. -/
theorem itemsBehind?_map {f : Line → Line} (hlabel : ∀ l, (f l).isLabel = l.isLabel)
    (hdata : ∀ l, (f l).isByteData = l.isByteData) (hitems : ∀ l, itemsOf (f l) = itemsOf l)
    (ls : List Line) : itemsBehind? (ls.map f) = itemsBehind? ls := by
  have hlabels : Line.isLabel ∘ f = Line.isLabel := funext hlabel
  have hbytes : Line.isByteData ∘ f = Line.isByteData := funext hdata
  have hlead : Line.leadToData (ls.map f) = Line.leadToData ls := by
    simp only [Line.leadToData, List.dropWhile_map, hlabels, List.head?_map, Option.any_map, hdata]
  simp only [itemsBehind?_eq, hlead, List.takeWhile_map, hbytes, List.flatMap_map, hitems]

/-- A line in front of a program is a label with data, or it has none. -/
theorem none_or_data (l : Line) (ls : List Line) :
    (l.isLabel = false ∨ itemsBehind? ls = none) ∨
      ∃ d items, l.record = .label d ∧ itemsBehind? ls = some items := by
  cases hl : l.isLabel with
  | false => exact Or.inl (Or.inl rfl)
  | true =>
    obtain ⟨d, hd⟩ := Line.exists_label_of_isLabel hl
    cases hitems : itemsBehind? ls with
    | none => exact Or.inl (Or.inr rfl)
    | some items => exact Or.inr ⟨d, items, hd, rfl⟩

/-- The region of a label at an address. -/
def ofLabel (l : Line) (d : Label) (address : Int) (items : List Text) : Region :=
  { name := d.name, address, items, location := l.location }

/-- A data label as the analysis leaves it. -/
def placed (l : Line) (d : Label) (address : Int) : Line :=
  { l with record := .label { d with isData := true }, slot := address }

theorem analyze_cons_of_data {d : Label} {items : List Text} (hl : l.record = .label d)
    (hitems : itemsBehind? ls = some items) (a : Int) :
    analyze a (l :: ls) = (placed l d a :: (analyze (a + items.length) ls).1,
      ofLabel l d a items :: (analyze (a + items.length) ls).2) := by
  rw [analyze]
  simp only [hl, hitems]
  rfl

theorem analyze_cons_of_none (hl : l.isLabel = false ∨ itemsBehind? ls = none) (a : Int) :
    analyze a (l :: ls) = (l :: (analyze a ls).1, (analyze a ls).2) := by
  rw [analyze]
  split
  · next d items hd hitems =>
    rcases hl with hl | hl
    · simp [Line.isLabel, hd] at hl
    · rw [hl] at hitems
      cases hitems
  · rfl

/-- What is found in front of some lines only moves the regions behind. -/
theorem analyze_append (a : Int) (xs ys : List Line) :
    ∃ xs' rs, analyze a (xs ++ ys) =
        (xs' ++ (analyze (a + totalSize rs) ys).1, rs ++ (analyze (a + totalSize rs) ys).2) ∧
      Line.slotCount xs' = Line.slotCount xs := by
  induction xs generalizing a with
  | nil =>
    refine ⟨[], [], ?_, rfl⟩
    change _ = ([] ++ (analyze (a + (0 : Nat)) ys).1, [] ++ (analyze (a + (0 : Nat)) ys).2)
    rw [Int.natCast_zero, Int.add_zero, List.nil_append, List.nil_append]
    rfl
  | cons l xs ih =>
    rw [List.cons_append]
    rcases none_or_data l (xs ++ ys) with hl | ⟨d, items, hd, hitems⟩
    · obtain ⟨xs', rs, heq, hcount⟩ := ih a
      refine ⟨l :: xs', rs, ?_, ?_⟩
      · rw [analyze_cons_of_none hl, heq, List.cons_append]
      · simp only [Line.slotCount, List.countP_cons] at hcount ⊢
        rw [hcount]
    · obtain ⟨xs', rs, heq, hcount⟩ := ih (a + items.length)
      have haddress : a + totalSize (ofLabel l d a items :: rs) =
          a + items.length + totalSize rs := by
        change a + ((items.length + totalSize rs : Nat) : Int) = _
        omega
      refine ⟨placed l d a :: xs', ofLabel l d a items :: rs, ?_, ?_⟩
      · rw [analyze_cons_of_data hd hitems, heq, haddress, List.cons_append, List.cons_append]
      · have hplaced : (placed l d a).isInstruction = l.isInstruction := by
          simp [Line.isInstruction, placed, hd]
        simp only [Line.slotCount, List.countP_cons, hplaced] at hcount ⊢
        rw [hcount]

theorem name_mem_of_mem_analyze {r : Region} (hr : r ∈ (analyze a ls).2) :
    r.name ∈ Line.labelNames ls := by
  induction ls generalizing a with
  | nil => cases hr
  | cons l ls ih =>
    have htail : ∀ {a}, r ∈ (analyze a ls).2 → r.name ∈ Line.labelNames (l :: ls) := by
      intro a hr
      obtain ⟨m, hm, hname⟩ := Line.mem_labelNames_iff.mp (ih hr)
      exact Line.mem_labelNames_iff.mpr ⟨m, List.mem_cons_of_mem _ hm, hname⟩
    rw [analyze] at hr
    split at hr
    · next d items hd _ =>
      rcases List.mem_cons.mp hr with rfl | hr
      · exact Line.mem_labelNames_iff.mpr ⟨l, List.mem_cons_self, by simp [Line.labelName?, hd]⟩
      · exact htail hr
    · exact htail hr

/-- The last label of a name stays as it is if it does not lead to data. -/
theorem analyze_of_isLastLabel_code (h : Line.IsLastLabel ls name before l behind)
    (hcode : Line.leadToData behind = false) (a : Int) :
    ∃ before' behind', Line.IsLastLabel (analyze a ls).1 name before' l behind' ∧
      Line.slotCount before' = Line.slotCount before := by
  obtain ⟨before', rs, heq, hcount⟩ := analyze_append a before (l :: behind)
  refine ⟨before', (analyze (a + totalSize rs) behind).1, ⟨?_, h.labelName, ?_⟩, hcount⟩
  · rw [h.eq_append, heq, analyze_cons_of_none (Or.inr (itemsBehind?_eq_none_iff.mpr hcode))]
  · rw [labelNames_analyze]
    exact h.not_mem_behind

/-- The region of a label: the last one of its name, at the label's place and with the items that
stand behind the label. -/
structure IsLastOf (rs : List Region) (name : Text) (l : Line) (behind : List Line) (r : Region) :
    Prop where
  exists_eq_append : ∃ rs₁ rs₂, rs = rs₁ ++ r :: rs₂ ∧ ∀ s ∈ rs₂, s.name ≠ name
  name_eq : r.name = name
  location_eq : r.location = l.location
  items_eq : itemsBehind? behind = some r.items

/-- The last label of a name that leads to data is flagged and gets the address of its region. -/
theorem analyze_of_isLastLabel_data (h : Line.IsLastLabel ls name before l behind)
    (hdata : Line.leadToData behind = true) (a : Int) :
    ∃ before' l' behind' r, Line.IsLastLabel (analyze a ls).1 name before' l' behind' ∧
      l'.isDataLabel = true ∧ l'.slot = r.address ∧ IsLastOf (analyze a ls).2 name l behind r := by
  obtain ⟨before', rs, heq, -⟩ := analyze_append a before (l :: behind)
  obtain ⟨items, hitems⟩ := exists_itemsBehind?_iff.mpr hdata
  obtain ⟨d, hd, rfl⟩ := Line.exists_label_of_labelName? h.labelName
  generalize a + totalSize rs = b at heq
  rw [analyze_cons_of_data hd hitems, ← h.eq_append] at heq
  refine ⟨before', placed l d b, (analyze (b + items.length) behind).1, ofLabel l d b items,
    ⟨?_, rfl, ?_⟩, rfl, rfl, ⟨rs, (analyze (b + items.length) behind).2, ?_, ?_⟩, rfl, rfl, hitems⟩
  · rw [heq]
  · rw [labelNames_analyze]
    exact h.not_mem_behind
  · rw [heq]
  · intro s hs hname
    have hmem := name_mem_of_mem_analyze hs
    rw [hname] at hmem
    exact h.not_mem_behind hmem

end Region

end AsmDispatch
