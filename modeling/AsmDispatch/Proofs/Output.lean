import AsmDispatch.Output
import AsmDispatch.Proofs.Outcome

/-!
# When the tables can be made

The blocks of definitions and of data can be made exactly if their literals can be written.  Host
and names play no part in it.
-/

namespace AsmDispatch.Output

variable {h : Host} {name : Text}

theorem definitionLine?_eq_ok_iff {l : Line} {ts : List Text} :
    definitionLine? h l = .ok ts ↔
      (∃ d v, l.record = .definition d ∧ Literal.format d.literal l.location = .ok v ∧
        ts = [h.withComment (h.constant d.name v) d.comment]) ∨
      (l.isDefinition = false ∧ ts = []) := by
  unfold definitionLine? Line.isDefinition
  cases hl : l.record with
  | definition d =>
    simp only
    rw [Outcome.bind_eq_ok_iff]
    constructor
    · rintro ⟨v, hv, hts⟩
      cases hts
      exact Or.inl ⟨d, v, rfl, hv, rfl⟩
    · rintro (⟨d', v, hd, hv, rfl⟩ | ⟨hf, -⟩)
      · cases hd
        exact ⟨v, hv, rfl⟩
      · cases hf
  | comment | directive | label | instruction =>
    simp only
    constructor
    · intro hts
      cases hts
      exact Or.inr ⟨trivial, rfl⟩
    · rintro (⟨d, v, hd, -, -⟩ | ⟨-, rfl⟩)
      · cases hd
      · rfl

theorem exists_definitionLines_eq_ok_iff {ls : List Line} :
    (∃ ts, definitionLines h ls = .ok ts) ↔
      ∀ l ∈ ls, ∀ d, l.record = .definition d →
        ∃ v, Literal.format d.literal l.location = .ok v := by
  have hlines : (∃ ts, definitionLines h ls = .ok ts) ↔
      ∃ tss, ls.mapM (definitionLine? h) = .ok tss := by
    unfold definitionLines
    simp only [Outcome.bind_eq_ok_iff]
    constructor
    · rintro ⟨ts, tss, htss, -⟩
      exact ⟨tss, htss⟩
    · rintro ⟨tss, htss⟩
      exact ⟨_, tss, htss, rfl⟩
  rw [hlines, Outcome.exists_mapM_eq_ok_iff]
  refine forall₂_congr fun l _ => ?_
  constructor
  · rintro ⟨ts, hts⟩ d hd
    rcases definitionLine?_eq_ok_iff.mp hts with ⟨d', v, hd', hv, -⟩ | ⟨hf, -⟩
    · rw [hd] at hd'
      cases hd'
      exact ⟨v, hv⟩
    · rw [Line.isDefinition, hd] at hf
      cases hf
  · intro hall
    by_cases hl : l.isDefinition = true
    · obtain ⟨d, hd⟩ : ∃ d, l.record = .definition d := by
        unfold Line.isDefinition at hl
        split at hl
        · next d hd => exact ⟨d, hd⟩
        · cases hl
      obtain ⟨v, hv⟩ := hall d hd
      exact ⟨_, definitionLine?_eq_ok_iff.mpr (Or.inl ⟨d, v, hd, hv, rfl⟩)⟩
    · exact ⟨[], definitionLine?_eq_ok_iff.mpr (Or.inr ⟨Bool.eq_false_iff.mpr hl, rfl⟩)⟩

/-- The two lines of a region with the given values. -/
def regionText (h : Host) (r : Region) (values : List Text) : List Text :=
  [h.indent 1 ++ h.comment (r.name ++ ": " ++ Text.hex r.address),
    h.indent 1 ++ if r.size = 0 then h.comment "Empty" else Text.join ", " values ++ ","]

theorem regionLines_eq_ok_iff {r : Region} {ts : List Text} :
    regionLines h r = .ok ts ↔ ∃ vs, regionValues r = .ok vs ∧ ts = regionText h r vs := by
  unfold regionLines
  rw [Outcome.bind_eq_ok_iff]
  constructor
  · rintro ⟨vs, hvs, hts⟩
    cases hts
    exact ⟨vs, hvs, rfl⟩
  · rintro ⟨vs, hvs, rfl⟩
    exact ⟨vs, hvs, rfl⟩

/-- The lines of the regions, with their values. -/
def groupLines (h : Host) (rs : List Region) (vss : List (List Text)) : List Text :=
  (List.zipWith (regionText h) rs vss).flatten

theorem forall₂_regionLines_iff {rs : List Region} {tss : List (List Text)} :
    List.Forall₂ (fun r ts => regionLines h r = .ok ts) rs tss ↔
      ∃ vss, List.Forall₂ (fun r vs => regionValues r = .ok vs) rs vss ∧
        tss = List.zipWith (regionText h) rs vss := by
  induction rs generalizing tss with
  | nil =>
    rw [List.forall₂_nil_left_iff]
    constructor
    · rintro rfl
      exact ⟨[], .nil, rfl⟩
    · rintro ⟨vss, -, rfl⟩
      rfl
  | cons r rs ih =>
    constructor
    · intro hall
      obtain ⟨ts, tss, hts, htail, rfl⟩ := List.forall₂_cons_left_iff.mp hall
      obtain ⟨vs, hvs, rfl⟩ := regionLines_eq_ok_iff.mp hts
      obtain ⟨vss, hvss, rfl⟩ := ih.mp htail
      exact ⟨vs :: vss, .cons hvs hvss, rfl⟩
    · rintro ⟨vss, hall, rfl⟩
      obtain ⟨vs, vss, hvs, hvss, rfl⟩ := List.forall₂_cons_left_iff.mp hall
      exact .cons (regionLines_eq_ok_iff.mpr ⟨vs, hvs, rfl⟩) (ih.mpr ⟨vss, hvss, rfl⟩)

/-- The block of data with the values of the regions. -/
theorem dataLines_eq_ok_iff {rs : List Region} {ts : List Text} :
    dataLines h name rs = .ok ts ↔
      ∃ vss, List.Forall₂ (fun r vs => regionValues r = .ok vs) rs vss ∧
        ts = [h.comment "Rom data", h.constant name "["] ++ groupLines h rs vss ++
          ["]  " ++ h.comment ("Total size: " ++ Text.decimal (Region.totalSize rs))] := by
  unfold dataLines
  rw [Outcome.bind_eq_ok_iff]
  simp only [Outcome.mapM_eq_ok_iff]
  constructor
  · rintro ⟨tss, htss, hts⟩
    obtain ⟨vss, hvss, rfl⟩ := forall₂_regionLines_iff.mp htss
    cases hts
    exact ⟨vss, hvss, rfl⟩
  · rintro ⟨vss, hvss, rfl⟩
    exact ⟨_, forall₂_regionLines_iff.mpr ⟨vss, hvss, rfl⟩, rfl⟩

/-- A block of data that can be made for one host can be made for every host. -/
theorem exists_dataLines_of_eq_ok {rs : List Region} {ts : List Text}
    (hts : dataLines h name rs = .ok ts) (h' : Host) : ∃ ts', dataLines h' name rs = .ok ts' := by
  obtain ⟨vss, hvss, -⟩ := dataLines_eq_ok_iff.mp hts
  exact ⟨_, dataLines_eq_ok_iff.mpr ⟨vss, hvss, rfl⟩⟩

theorem exists_definitionLines_of_eq_ok {ls : List Line} {ts : List Text}
    (hts : definitionLines h ls = .ok ts) (h' : Host) : ∃ ts', definitionLines h' ls = .ok ts' :=
  exists_definitionLines_eq_ok_iff.mpr (exists_definitionLines_eq_ok_iff.mp ⟨ts, hts⟩)

end AsmDispatch.Output
