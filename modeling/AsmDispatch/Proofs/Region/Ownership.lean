import AsmDispatch.Proofs.Line.Label
import AsmDispatch.Proofs.Region.Layout
import Mathlib.Data.List.Forall2

/-!
# Which label owns which data

The analysis looks ahead from every label anew.  What it finds can be said place by place: a label
is flagged if the first line behind it that is no label is a byte directive, it owns the byte
directives that follow it at once, and every byte directive has one owner or none.

## Main statements

* `Region.becomes_getElem?`: what becomes of the line at a place.
* `Region.forall₂_isAt_analyze`: one region for each flagged label, in order.
* `Line.inRun_iff`, `Line.isOwned_iff`: owning a byte directive, seen from the label and from the
  directive.
* `Region.analysis_exact`: all of it, for every program of fresh lines.
-/

namespace AsmDispatch

namespace Line

variable {ls before behind : List Line} {l d : Line} {i j : Nat}

/-- The byte directives that follow the line at a place at once. -/
def runBehind (ls : List Line) (i : Nat) : List Line := (ls.drop (i + 1)).takeWhile isByteData

/-- The line at `j` is one of the byte directives that follow the line at `i` at once. -/
def InRun (ls : List Line) (i j : Nat) : Prop := i < j ∧ j ≤ i + (runBehind ls i).length

/-- Whether the byte directives that reach up to a place have a label directly in front of them. -/
def isOwned (ls : List Line) (j : Nat) : Bool :=
  ((ls.take j).reverse.dropWhile isByteData).head?.any isLabel

/-- The places of the data labels in order. -/
def dataPlaces (ls : List Line) : List Nat :=
  (List.range ls.length).filter fun i => ls[i]?.any isDataLabel

theorem mem_dataPlaces_iff : i ∈ dataPlaces ls ↔ ∃ l, ls[i]? = some l ∧ l.isDataLabel = true := by
  rw [dataPlaces, List.mem_filter, List.mem_range, Option.any_eq_true]
  refine ⟨And.right, fun hi => ⟨?_, hi⟩⟩
  obtain ⟨l, hl, -⟩ := hi
  exact (List.getElem?_eq_some_iff.mp hl).1

theorem dataPlaces_cons (l : Line) (ls : List Line) :
    dataPlaces (l :: ls) =
      (if l.isDataLabel then [0] else []) ++ (dataPlaces ls).map Nat.succ := by
  rw [dataPlaces, List.length_cons, List.range_succ_eq_map, List.filter_cons, List.filter_map]
  simp only [List.getElem?_cons_zero, Option.any_some]
  split <;> rfl

theorem drop_eq_cons_of_getElem? (hl : ls[i]? = some l) : ls.drop i = l :: ls.drop (i + 1) := by
  obtain ⟨hi, rfl⟩ := List.getElem?_eq_some_iff.mp hl
  exact List.drop_eq_getElem_cons hi

theorem exists_eq_append_of_getElem? (hl : ls[i]? = some l) :
    ∃ before behind, ls = before ++ l :: behind ∧ before.length = i := by
  obtain ⟨hi, -⟩ := List.getElem?_eq_some_iff.mp hl
  refine ⟨ls.take i, ls.drop (i + 1), ?_, List.length_take_of_le (Nat.le_of_lt hi)⟩
  rw [← drop_eq_cons_of_getElem? hl, List.take_append_drop]

/-! ## Runs of byte directives -/

/-- The lines up to a byte directive are a run exactly if the run reaches the directive. -/
theorem length_lt_length_takeWhile_iff (hd : d.isByteData = true) (run behind : List Line) :
    run.length < ((run ++ d :: behind).takeWhile isByteData).length ↔
      ∀ m ∈ run, m.isByteData = true := by
  induction run with
  | nil => simp [hd]
  | cons m run ih =>
    rw [List.cons_append, List.forall_mem_cons, ← ih]
    by_cases hm : m.isByteData = true
    · rw [List.takeWhile_cons_of_pos hm]
      simp [hm]
    · rw [List.takeWhile_cons_of_neg hm]
      simp [hm]

theorem drop_length_succ (front : List Line) (l : Line) (run rest : List Line) :
    (front ++ l :: run ++ rest).drop (front.length + 1) = run ++ rest := by
  rw [List.append_assoc, List.drop_append]
  simp

/-- A byte directive is in the run of a label exactly if only byte directives stand between. -/
theorem inRun_iff (hls : ls = before ++ d :: behind) (hd : d.isByteData = true) :
    InRun ls i before.length ↔
      ∃ front l run, before = front ++ l :: run ∧ front.length = i ∧
        ∀ m ∈ run, m.isByteData = true := by
  constructor
  · rintro ⟨hlt, hle⟩
    obtain ⟨l, hl⟩ : ∃ l, before[i]? = some l := ⟨_, List.getElem?_eq_getElem hlt⟩
    obtain ⟨front, run, rfl, rfl⟩ := exists_eq_append_of_getElem? hl
    refine ⟨front, l, run, rfl, rfl, ?_⟩
    rw [runBehind, hls, drop_length_succ] at hle
    rw [← length_lt_length_takeWhile_iff hd run behind]
    simp only [List.length_append, List.length_cons] at hle
    omega
  · rintro ⟨front, l, run, rfl, rfl, hrun⟩
    have hlength := (length_lt_length_takeWhile_iff hd run behind).mpr hrun
    rw [InRun, runBehind, hls, drop_length_succ]
    simp only [List.length_append, List.length_cons]
    omega

/-- A run up to a place has a label in front exactly if only byte directives stand behind that
label. -/
theorem isOwned_iff (hls : ls = before ++ d :: behind) :
    isOwned ls before.length = true ↔
      ∃ front l run, before = front ++ l :: run ∧ l.isLabel = true ∧
        ∀ m ∈ run, m.isByteData = true := by
  have htake : ls.take before.length = before := by rw [hls, List.take_left']; rfl
  rw [isOwned, htake, Option.any_eq_true]
  constructor
  · rintro ⟨l, hl, hlabel⟩
    obtain ⟨rest, hrest⟩ := List.head?_eq_some_iff.mp hl
    have hreverse : before.reverse = before.reverse.takeWhile isByteData ++ l :: rest := by
      rw [← hrest, List.takeWhile_append_dropWhile]
    have hbefore := congrArg List.reverse hreverse
    rw [List.reverse_reverse, List.reverse_append, List.reverse_cons, List.append_assoc,
      List.singleton_append] at hbefore
    refine ⟨rest.reverse, l, (before.reverse.takeWhile isByteData).reverse, hbefore, hlabel, ?_⟩
    · intro m hm
      exact List.all_eq_true.mp (List.all_takeWhile) m (List.mem_reverse.mp hm)
  · rintro ⟨front, l, run, rfl, hlabel, hrun⟩
    refine ⟨l, ?_, hlabel⟩
    rw [List.reverse_append, List.reverse_cons, List.append_assoc,
      List.dropWhile_append_of_pos fun m hm => hrun m (List.mem_reverse.mp hm),
      List.singleton_append, List.dropWhile_cons_of_neg (not_isByteData_of_isLabel hlabel)]
    rfl

/-- Only one label can have nothing but byte directives between itself and a place. -/
theorem owner_unique {front front' run run' : List Line} {l l' : Line}
    (heq : front ++ l :: run = front' ++ l' :: run') (hl : l.isLabel = true)
    (hl' : l'.isLabel = true) (hrun : ∀ m ∈ run, m.isByteData = true)
    (hrun' : ∀ m ∈ run', m.isByteData = true) : front = front' := by
  -- if one of the labels came first, the other would stand in its run
  rcases List.append_eq_append_iff.mp heq with ⟨rest, hfront, hrest⟩ | ⟨rest, hfront, hrest⟩
  · cases rest with
    | nil => rw [hfront, List.append_nil]
    | cons m rest =>
      obtain ⟨-, hrest⟩ := List.cons.inj hrest
      have hmem : l' ∈ run := hrest ▸ List.mem_append_right _ List.mem_cons_self
      exact absurd (hrun l' hmem) (not_isByteData_of_isLabel hl')
  · cases rest with
    | nil => rw [hfront, List.append_nil]
    | cons m rest =>
      obtain ⟨-, hrest⟩ := List.cons.inj hrest
      have hmem : l ∈ run' := hrest ▸ List.mem_append_right _ List.mem_cons_self
      exact absurd (hrun' l hmem) (not_isByteData_of_isLabel hl)

end Line

namespace Region

variable {ls behind : List Line} {l m : Line} {a : Int} {i j : Nat}

/-! ## Lines -/

/-- What the analysis makes of a line with the given lines behind it: a label that leads to data
is flagged and placed, and any other line stays as it is. -/
structure Becomes (l : Line) (behind : List Line) (l' : Line) : Prop where
  flag_eq : l'.isDataLabel = (l.isLabel && Line.leadToData behind)
  eq_self : l'.isDataLabel = false → l' = l
  eq_placed : l'.isDataLabel = true → ∃ d, l.record = .label d ∧ l' = placed l d l'.slot

/-- A fresh line in front of a program: what becomes of it, and where the rest goes on. -/
theorem exists_analyze_cons (hl : l.isDataLabel = false) (a : Int) (ls : List Line) :
    ∃ l' b, (analyze a (l :: ls)).1 = l' :: (analyze b ls).1 ∧ Becomes l ls l' := by
  rcases none_or_data l ls with hnone | ⟨d, items, hd, hitems⟩
  · refine ⟨l, a, by rw [analyze_cons_of_none hnone], ?_, fun _ => rfl, fun hflag => ?_⟩
    · rw [hl, itemsBehind?_eq_none_iff] at *
      rcases hnone with hnone | hnone
      · rw [hnone, Bool.false_and]
      · rw [hnone, Bool.and_false]
    · rw [hl] at hflag
      cases hflag
  · refine ⟨placed l d a, a + items.length, by rw [analyze_cons_of_data hd hitems], ?_,
      fun hflag => ?_, fun _ => ⟨d, hd, rfl⟩⟩
    · rw [Line.isLabel_of_record hd, exists_itemsBehind?_iff.mp ⟨items, hitems⟩]
      rfl
    · cases hflag

theorem length_analyze (a : Int) (ls : List Line) : (analyze a ls).1.length = ls.length := by
  induction ls generalizing a with
  | nil => rfl
  | cons l ls ih =>
    rw [analyze]
    split
    · simp only [List.length_cons, ih]
    · simp only [List.length_cons, ih]

/-- The analysis from a place on is an analysis of the lines from there on. -/
theorem exists_drop_analyze (a : Int) (ls : List Line) (i : Nat) :
    ∃ b, (analyze a ls).1.drop i = (analyze b (ls.drop i)).1 := by
  induction ls generalizing a i with
  | nil => exact ⟨a, by simp [analyze]⟩
  | cons l ls ih =>
    cases i with
    | zero => exact ⟨a, rfl⟩
    | succ i =>
      rw [analyze]
      split
      · exact ih _ i
      · exact ih a i

theorem becomes_getElem? (hl : l.isDataLabel = false) (hget : ls[i]? = some l) (a : Int) :
    ∃ l', (analyze a ls).1[i]? = some l' ∧ Becomes l (ls.drop (i + 1)) l' := by
  obtain ⟨b, hdrop⟩ := exists_drop_analyze a ls i
  obtain ⟨l', c, hcons, hbecomes⟩ := exists_analyze_cons hl b (ls.drop (i + 1))
  refine ⟨l', ?_, hbecomes⟩
  rw [← List.head?_drop, hdrop, Line.drop_eq_cons_of_getElem? hget, hcons, List.head?_cons]

/-! ## Chains of labels -/

/-- Two labels one behind the other get the same flag and, if they are flagged, the same place. -/
theorem exists_analyze_labels (hl : l.isDataLabel = false) (hm : m.isDataLabel = false)
    (hlabel : l.isLabel = true) (hmlabel : m.isLabel = true) (a : Int) (ls : List Line) :
    ∃ l' m' b, (analyze a (l :: m :: ls)).1 = l' :: m' :: (analyze b ls).1 ∧
      l'.isDataLabel = m'.isDataLabel ∧ (l'.isDataLabel = true → l'.slot = m'.slot) := by
  obtain ⟨d, hd⟩ := Line.exists_label_of_isLabel hlabel
  obtain ⟨d', hd'⟩ := Line.exists_label_of_isLabel hmlabel
  have hrun : (m :: ls).takeWhile Line.isByteData = [] :=
    List.takeWhile_cons_of_neg (Line.not_isByteData_of_isLabel hmlabel)
  cases hleads : Line.leadToData ls with
  | false =>
    have hnone : itemsBehind? (m :: ls) = none := by
      rw [itemsBehind?_eq_none_iff, Line.leadToData_cons_of_isLabel hmlabel, hleads]
    refine ⟨l, m, a, ?_, hl.trans hm.symm, fun hflag => ?_⟩
    · rw [analyze_cons_of_none (Or.inr hnone),
        analyze_cons_of_none (Or.inr (itemsBehind?_eq_none_iff.mpr hleads))]
    · rw [hl] at hflag
      cases hflag
  | true =>
    -- the first label owns nothing, so the second one gets its address
    have hempty : itemsBehind? (m :: ls) = some [] := by
      rw [itemsBehind?_eq, Line.leadToData_cons_of_isLabel hmlabel, hleads, hrun]
      rfl
    obtain ⟨items, hitems⟩ := exists_itemsBehind?_iff.mpr hleads
    refine ⟨placed l d a, placed m d' a, a + items.length, ?_, rfl, fun _ => rfl⟩
    rw [analyze_cons_of_data hd hempty, List.length_nil, Int.natCast_zero, Int.add_zero,
      analyze_cons_of_data hd' hitems]

/-- All labels of a chain get the same flag and, if they are flagged, the same place. -/
theorem chain_analyze (hls : ∀ l ∈ ls, l.isDataLabel = false) (a : Int) {n : Nat}
    (hchain : ∀ k, i ≤ k → k ≤ i + n → ls[k]?.any Line.isLabel = true)
    (hl : (analyze a ls).1[i]? = some l) (hm : (analyze a ls).1[i + n]? = some m) :
    l.isDataLabel = m.isDataLabel ∧ (l.isDataLabel = true → l.slot = m.slot) := by
  induction n generalizing m with
  | zero =>
    rw [Nat.add_zero, hl] at hm
    cases hm
    exact ⟨rfl, fun _ => rfl⟩
  | succ n ih =>
    obtain ⟨x, hx, hxlabel⟩ := (Option.any_eq_true _ _).mp
      (hchain (i + n) (Nat.le_add_right i n) (Nat.le_succ _))
    obtain ⟨y, hy, hylabel⟩ := (Option.any_eq_true _ _).mp
      (hchain (i + n + 1) (by omega) (Nat.le_refl _))
    obtain ⟨b, hdrop⟩ := exists_drop_analyze a ls (i + n)
    rw [Line.drop_eq_cons_of_getElem? hx, Line.drop_eq_cons_of_getElem? hy] at hdrop
    obtain ⟨x', y', c, hcons, hflag, hslot⟩ := exists_analyze_labels
      (hls x (List.mem_of_getElem? hx)) (hls y (List.mem_of_getElem? hy)) hxlabel hylabel b
      (ls.drop (i + n + 1 + 1))
    rw [hcons] at hdrop
    have hx' : (analyze a ls).1[i + n]? = some x' := by
      rw [← List.head?_drop, hdrop, List.head?_cons]
    have hy' : (analyze a ls).1[i + (n + 1)]? = some y' := by
      rw [← Nat.add_assoc, ← List.getElem?_drop, hdrop]
      rfl
    rw [hm] at hy'
    cases hy'
    obtain ⟨hflag', hslot'⟩ := ih (fun k hk hkn => hchain k hk (by omega)) hx'
    refine ⟨hflag'.trans hflag, fun hl' => (hslot' hl').trans (hslot ?_)⟩
    rw [← hflag', hl']

/-! ## Regions -/

/-- The region of the flagged label at a place, where the analysis has made `ls'` of `ls`. -/
structure IsAt (ls ls' : List Line) (i : Nat) (r : Region) : Prop where
  label : ∃ l, ls'[i]? = some l ∧ l.labelName? = some r.name ∧ l.slot = r.address ∧
    l.location = r.location
  items_eq : r.items = (Line.runBehind ls i).flatMap itemsOf
  items_ne_nil_iff : r.items ≠ [] ↔ ls[i + 1]?.any Line.isByteData = true

theorem items_eq_of_itemsBehind? {items : List Text} (hitems : itemsBehind? ls = some items) :
    items = (ls.takeWhile Line.isByteData).flatMap itemsOf := by
  rw [itemsBehind?_eq] at hitems
  split at hitems
  · cases hitems
    rfl
  · cases hitems

/-- Even a byte directive without an operand has an item. -/
theorem itemsOf_ne_nil (hl : l.isByteData = true) : itemsOf l ≠ [] := by
  obtain ⟨d, hd⟩ : ∃ d, l.record = .directive d := by
    unfold Line.isByteData at hl
    split at hl
    · next d hd => exact ⟨d, hd⟩
    · cases hl
  intro hnil
  rw [itemsOf, hd] at hnil
  exact Text.pieces_ne_nil _ _ (List.map_eq_nil_iff.mp hnil)

theorem flatMap_itemsOf_ne_nil_iff (ls : List Line) :
    (ls.takeWhile Line.isByteData).flatMap itemsOf ≠ [] ↔ ls[0]?.any Line.isByteData = true := by
  cases ls with
  | nil => simp
  | cons d ls =>
    rw [List.getElem?_cons_zero, Option.any_some]
    by_cases hd : d.isByteData = true
    · simp [hd, itemsOf_ne_nil hd]
    · simp [hd]

theorem IsAt.cons {ls' : List Line} {r : Region} (h : IsAt ls ls' i r) (l l' : Line) :
    IsAt (l :: ls) (l' :: ls') (i + 1) r :=
  ⟨h.label, h.items_eq, h.items_ne_nil_iff⟩

/-- One region for each flagged label, in order. -/
theorem forall₂_isAt_analyze (hls : ∀ l ∈ ls, l.isDataLabel = false) (a : Int) :
    List.Forall₂ (IsAt ls (analyze a ls).1) (Line.dataPlaces (analyze a ls).1)
      (analyze a ls).2 := by
  induction ls generalizing a with
  | nil => exact .nil
  | cons l ls ih =>
    obtain ⟨hl, htail⟩ := List.forall_mem_cons.mp hls
    have hrest : ∀ b l', List.Forall₂ (IsAt (l :: ls) (l' :: (analyze b ls).1))
        ((Line.dataPlaces (analyze b ls).1).map Nat.succ) (analyze b ls).2 := fun b l' =>
      List.forall₂_map_left_iff.mpr ((ih htail b).imp fun i r hr => hr.cons l l')
    rw [analyze]
    split
    · next d items hd hitems =>
      rw [Line.dataPlaces_cons]
      refine .cons ⟨⟨_, rfl, rfl, rfl, rfl⟩, ?_, ?_⟩ (hrest _ _)
      · exact items_eq_of_itemsBehind? hitems
      · rw [items_eq_of_itemsBehind? hitems]
        exact flatMap_itemsOf_ne_nil_iff ls
    · rw [Line.dataPlaces_cons, hl]
      exact hrest a l

/-! ## Owners -/

theorem mem_dataPlaces_analyze_iff (hls : ∀ l ∈ ls, l.isDataLabel = false) (a : Int) :
    i ∈ Line.dataPlaces (analyze a ls).1 ↔
      ∃ l, ls[i]? = some l ∧ l.isLabel = true ∧ Line.leadToData (ls.drop (i + 1)) = true := by
  rw [Line.mem_dataPlaces_iff]
  constructor
  · rintro ⟨l', hl', hflag⟩
    have hi : i < ls.length := by
      rw [← length_analyze a]
      exact (List.getElem?_eq_some_iff.mp hl').1
    have hl := List.getElem?_eq_getElem hi
    obtain ⟨m, hm, hbecomes⟩ := becomes_getElem? (hls _ (List.mem_of_getElem? hl)) hl a
    rw [hl'] at hm
    cases hm
    rw [hbecomes.flag_eq, Bool.and_eq_true] at hflag
    exact ⟨_, hl, hflag⟩
  · rintro ⟨l, hl, hlabel, hleads⟩
    obtain ⟨l', hl', hbecomes⟩ := becomes_getElem? (hls l (List.mem_of_getElem? hl)) hl a
    refine ⟨l', hl', ?_⟩
    rw [hbecomes.flag_eq, hlabel, hleads]
    rfl

/-- A byte directive is in the run of a flagged label exactly if the label stands directly in front
of its run. -/
theorem mem_dataPlaces_and_inRun_iff (hls : ∀ l ∈ ls, l.isDataLabel = false) (a : Int)
    {before : List Line} {d : Line} (heq : ls = before ++ d :: behind)
    (hd : d.isByteData = true) :
    i ∈ Line.dataPlaces (analyze a ls).1 ∧ Line.InRun ls i before.length ↔
      ∃ front l run, before = front ++ l :: run ∧ front.length = i ∧ l.isLabel = true ∧
        ∀ m ∈ run, m.isByteData = true := by
  rw [Line.inRun_iff heq hd, mem_dataPlaces_analyze_iff hls]
  constructor
  · rintro ⟨⟨l, hl, hlabel, -⟩, front, l', run, rfl, rfl, hrun⟩
    have hl' : ls[front.length]? = some l' := by simp [heq]
    rw [hl'] at hl
    cases hl
    exact ⟨front, l, run, rfl, rfl, hlabel, hrun⟩
  · rintro ⟨front, l, run, rfl, rfl, hlabel, hrun⟩
    refine ⟨⟨l, by simp [heq], hlabel, ?_⟩, front, l, run, rfl, rfl, hrun⟩
    rw [heq, Line.drop_length_succ]
    cases run with
    | nil => exact Line.leadToData_cons_of_isByteData hd behind
    | cons m run => exact Line.leadToData_cons_of_isByteData (hrun m List.mem_cons_self) _

/-! ## The analysis as a whole -/

/-- The lines `ls'` and the regions `rs` are what is to be found in the program `ls` from an address
on. -/
structure Analysis (base : Int) (ls ls' : List Line) (rs : List Region) : Prop where
  length_eq : ls'.length = ls.length
  /-- A label is flagged if the first line behind it that is no label is a byte directive.  Nothing
  else changes, and of such a label only its flag and its slot. -/
  becomes : ∀ i l l', ls[i]? = some l → ls'[i]? = some l' → Becomes l (ls.drop (i + 1)) l'
  /-- There is one region for each flagged label, in order, and it has the items of the byte
  directives that follow the label at once. -/
  regions : List.Forall₂ (IsAt ls ls') (Line.dataPlaces ls') rs
  consecutive : Consecutive base rs
  /-- A byte directive whose run has a label directly in front gives its items to one region. -/
  owned : ∀ j d, ls[j]? = some d → d.isByteData = true → Line.isOwned ls j = true →
    ∃! i, i ∈ Line.dataPlaces ls' ∧ Line.InRun ls i j
  /-- Any other byte directive gives its items to none. -/
  unowned : ∀ j d, ls[j]? = some d → d.isByteData = true → Line.isOwned ls j = false →
    ∀ i ∈ Line.dataPlaces ls', ¬ Line.InRun ls i j
  /-- All labels of a chain get the same address. -/
  chain : ∀ (i j : Nat) (l m : Line), i ≤ j →
    (∀ k, i ≤ k → k ≤ j → ls[k]?.any Line.isLabel = true) →
    ls'[i]? = some l → ls'[j]? = some m →
      l.isDataLabel = m.isDataLabel ∧ (l.isDataLabel = true → l.slot = m.slot)

/-- In a program whose lines are fresh, the analysis flags the labels that lead to data and no other
line, and shares out the byte directives among them without losing or doubling any. -/
theorem analysis_exact (base : Int) (ls : List Line) (hls : ∀ l ∈ ls, l.isDataLabel = false) :
    Analysis base ls (analyze base ls).1 (analyze base ls).2 where
  length_eq := length_analyze base ls
  becomes := by
    intro i l l' hl hl'
    obtain ⟨m, hm, hbecomes⟩ := becomes_getElem? (hls l (List.mem_of_getElem? hl)) hl base
    rw [hl'] at hm
    cases hm
    exact hbecomes
  regions := forall₂_isAt_analyze hls base
  consecutive := consecutive_analyze base ls
  owned := by
    intro j d hd hdata howned
    obtain ⟨before, behind, heq, rfl⟩ := Line.exists_eq_append_of_getElem? hd
    obtain ⟨front, l, run, hbefore, hlabel, hrun⟩ := (Line.isOwned_iff heq).mp howned
    refine ⟨front.length, (mem_dataPlaces_and_inRun_iff hls base heq hdata).mpr
      ⟨front, l, run, hbefore, rfl, hlabel, hrun⟩, fun i hi => ?_⟩
    obtain ⟨front', l', run', hbefore', rfl, hlabel', hrun'⟩ :=
      (mem_dataPlaces_and_inRun_iff hls base heq hdata).mp hi
    rw [Line.owner_unique (hbefore'.symm.trans hbefore) hlabel' hlabel hrun' hrun]
  unowned := by
    intro j d hd hdata hunowned i hi hrun
    obtain ⟨before, behind, heq, rfl⟩ := Line.exists_eq_append_of_getElem? hd
    obtain ⟨front, l, run, hbefore, -, hlabel, hrun⟩ :=
      (mem_dataPlaces_and_inRun_iff hls base heq hdata).mp ⟨hi, hrun⟩
    rw [(Line.isOwned_iff heq).mpr ⟨front, l, run, hbefore, hlabel, hrun⟩] at hunowned
    cases hunowned
  chain := by
    intro i j l m hij hchain hl hm
    obtain ⟨n, rfl⟩ := Nat.exists_eq_add_of_le hij
    exact chain_analyze hls base hchain hl hm

/-- A chain of two labels in front of a run of two byte directives, byte directives that nothing
owns in front of it and behind a comment, and a label at the end. -/
def sharedLines : List Line :=
  [{ record := .directive { name := ".db", operand := "9" } },
    { record := .label { name := "alias" } },
    { record := .label { name := "table" } },
    { record := .directive { name := ".DB", operand := "1, <two" } },
    { record := .directive { name := ".db" } },
    { record := .comment "gap" },
    { record := .directive { name := ".db", operand := "8" } },
    { record := .label { name := "last" } }]

def sharedAnalyzed : List Line :=
  [{ record := .directive { name := ".db", operand := "9" } },
    { record := .label { name := "alias", isData := true }, slot := 0x8000 },
    { record := .label { name := "table", isData := true }, slot := 0x8000 },
    { record := .directive { name := ".DB", operand := "1, <two" } },
    { record := .directive { name := ".db" } },
    { record := .comment "gap" },
    { record := .directive { name := ".db", operand := "8" } },
    { record := .label { name := "last" } }]

def sharedRegions : List Region :=
  [{ name := "alias", address := 0x8000 },
    { name := "table", address := 0x8000, items := ["1", "<two", []] }]

theorem analysis_exact_of_shared :
    (∀ l ∈ sharedLines, l.isDataLabel = false) ∧
      analyze 0x8000 sharedLines = (sharedAnalyzed, sharedRegions) ∧
      Analysis 0x8000 sharedLines sharedAnalyzed sharedRegions := by
  have hfresh : ∀ l ∈ sharedLines, l.isDataLabel = false := by decide
  have hanalyze : analyze 0x8000 sharedLines = (sharedAnalyzed, sharedRegions) := by
    decide +kernel
  have hexact := analysis_exact 0x8000 sharedLines hfresh
  rw [hanalyze] at hexact
  exact ⟨hfresh, hanalyze, hexact⟩

end Region

end AsmDispatch
