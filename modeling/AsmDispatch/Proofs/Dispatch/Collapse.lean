import AsmDispatch.Dispatch
import Mathlib.Data.List.Chain

/-!
# Dropping blank lines

The lines of a body are kept or dropped one after the other, by the last line that was kept.  Lines
that are not blank are all kept, so it is enough to look at the runs of blank lines: what is left of
a run depends on its length and on whether anything was kept in front of it.

## Main statements

* `Dispatch.solid_collapseAfter`: the lines that are not blank stay as they are.
* `Dispatch.collapsed_collapse`: what becomes of every run of blank lines.
* `Dispatch.collapse_collapse`: there is nothing more to drop afterwards.
-/

namespace AsmDispatch.Dispatch

variable {a b : Text} {ls u v : List Text}

/-- The lines that are not blank. -/
def solid (ls : List Text) : List Text := ls.filter (!·.isEmpty)

theorem solid_nil_cons (ls : List Text) : solid ([] :: ls) = solid ls := rfl

theorem solid_cons (ha : a ≠ []) (ls : List Text) : solid (a :: ls) = a :: solid ls := by
  obtain ⟨c, t, rfl⟩ := List.exists_cons_of_ne_nil ha
  rfl

theorem solid_eq_self (hls : ∀ a ∈ ls, a ≠ []) : solid ls = ls := by
  refine List.filter_eq_self.mpr fun a ha => ?_
  rw [Bool.not_eq_true', List.isEmpty_eq_false_iff]
  exact hls a ha

theorem mem_solid_iff : a ∈ solid ls ↔ a ∈ ls ∧ a ≠ [] := by
  rw [solid, List.mem_filter]
  simp

/-! ## One line -/

theorem collapseAfter_nil (blank : Bool) : collapseAfter blank [] = [] := rfl

theorem collapseAfter_nil_cons (blank : Bool) (ls : List Text) :
    collapseAfter blank ([] :: ls) =
      if blank then collapseAfter true ls else [] :: collapseAfter true ls := rfl

theorem collapseAfter_cons (ha : a ≠ []) (blank : Bool) (ls : List Text) :
    collapseAfter blank (a :: ls) = a :: collapseAfter false ls := by
  obtain ⟨c, t, rfl⟩ := List.exists_cons_of_ne_nil ha
  rfl

/-! ## What is left -/

/-- Only blank lines are dropped. -/
theorem solid_collapseAfter (blank : Bool) (ls : List Text) :
    solid (collapseAfter blank ls) = solid ls := by
  induction ls generalizing blank with
  | nil => rfl
  | cons l ls ih =>
    by_cases hl : l = []
    · subst hl
      rw [collapseAfter_nil_cons, solid_nil_cons]
      split
      · exact ih true
      · rw [solid_nil_cons, ih true]
    · rw [collapseAfter_cons hl, solid_cons hl, solid_cons hl, ih false]

theorem mem_collapseAfter_iff (ha : a ≠ []) (blank : Bool) (ls : List Text) :
    a ∈ collapseAfter blank ls ↔ a ∈ ls := by
  have hsolid (ls : List Text) : a ∈ solid ls ↔ a ∈ ls := by
    rw [mem_solid_iff, and_iff_left ha]
  rw [← hsolid, solid_collapseAfter, hsolid]

/-- Not both of two neighbours are blank. -/
def Apart (a b : Text) : Prop := a ≠ [] ∨ b ≠ []

theorem head?_collapseAfter (ls : List Text) : (collapseAfter true ls).head? ≠ some [] := by
  induction ls with
  | nil => exact nofun
  | cons l ls ih =>
    by_cases hl : l = []
    · subst hl
      exact ih
    · rw [collapseAfter_cons hl, List.head?_cons]
      intro h
      exact hl (Option.some.inj h)

theorem isChain_collapseAfter (blank : Bool) (ls : List Text) :
    (collapseAfter blank ls).IsChain Apart := by
  induction ls generalizing blank with
  | nil => exact .nil
  | cons l ls ih =>
    by_cases hl : l = []
    · subst hl
      rw [collapseAfter_nil_cons]
      split
      · exact ih true
      · refine List.isChain_cons.mpr ⟨fun b hb => ?_, ih true⟩
        refine Or.inr fun hnil => ?_
        subst hnil
        exact head?_collapseAfter ls hb
    · rw [collapseAfter_cons hl]
      exact List.isChain_cons.mpr ⟨fun b _ => Or.inl hl, ih false⟩

/-- Where no two neighbours are blank, there is nothing to drop behind the first line. -/
theorem collapseAfter_eq_self {blank : Bool} (hls : ls.IsChain Apart)
    (hhead : blank = true → ls.head? ≠ some []) : collapseAfter blank ls = ls := by
  induction ls generalizing blank with
  | nil => rfl
  | cons l ls ih =>
    obtain ⟨hnext, htail⟩ := List.isChain_cons.mp hls
    by_cases hl : l = []
    · subst hl
      have hblank : blank = false := by
        cases blank with
        | false => rfl
        | true => exact absurd rfl (hhead rfl)
      have hrest : ls.head? ≠ some [] := by
        intro h
        rcases hnext [] h with hne | hne <;> exact hne rfl
      rw [collapseAfter_nil_cons, hblank, if_neg Bool.false_ne_true, ih htail fun _ => hrest]
    · rw [collapseAfter_cons hl, ih htail fun h => absurd h Bool.false_ne_true]

theorem collapse_collapse (ls : List Text) : collapse (collapse ls) = collapse ls :=
  collapseAfter_eq_self (isChain_collapseAfter true ls) fun _ => head?_collapseAfter ls

/-! ## Runs of blank lines -/

/-- A line that is not blank parts what is in front of it from what is behind it. -/
theorem collapseAfter_append_cons (ha : a ≠ []) (blank : Bool) (u v : List Text) :
    collapseAfter blank (u ++ a :: v) = collapseAfter blank u ++ a :: collapseAfter false v := by
  induction u generalizing blank with
  | nil => exact collapseAfter_cons ha blank v
  | cons l u ih =>
    by_cases hl : l = []
    · subst hl
      rw [List.cons_append, collapseAfter_nil_cons, collapseAfter_nil_cons, ih true]
      split <;> rfl
    · rw [List.cons_append, collapseAfter_cons hl, collapseAfter_cons hl, ih false, List.cons_append]

/-- A run at the start is dropped. -/
theorem collapseAfter_true_replicate (n : Nat) (ls : List Text) :
    collapseAfter true (List.replicate n [] ++ ls) = collapseAfter true ls := by
  induction n with
  | zero => rfl
  | succ n ih => exact ih

/-- A run behind a line that was kept becomes one line, and what is behind it follows a blank line. -/
theorem collapseAfter_false_replicate (n : Nat) (ls : List Text) :
    collapseAfter false (List.replicate n [] ++ ls) =
      List.replicate (min n 1) [] ++ collapseAfter (n != 0) ls := by
  cases n with
  | zero => rfl
  | succ n =>
    have hmin : min (n + 1) 1 = 1 := by omega
    rw [hmin]
    exact congrArg ([] :: ·) (collapseAfter_true_replicate n ls)

/-- The lines are blank, or there is a last one that is not. -/
theorem exists_eq_replicate_or (ls : List Text) :
    (∃ n, ls = List.replicate n []) ∨
      ∃ u a n, a ≠ [] ∧ ls = u ++ a :: List.replicate n [] := by
  induction ls with
  | nil => exact Or.inl ⟨0, rfl⟩
  | cons l ls ih =>
    rcases ih with ⟨n, rfl⟩ | ⟨u, a, n, ha, rfl⟩
    · by_cases hl : l = []
      · exact Or.inl ⟨n + 1, by rw [hl, List.replicate_succ]⟩
      · exact Or.inr ⟨[], l, n, hl, rfl⟩
    · exact Or.inr ⟨l :: u, a, n, ha, rfl⟩

theorem getLast?_append_replicate (u : List Text) (a : Text) (n : Nat) :
    (u ++ a :: List.replicate n []).getLast? = some (if n = 0 then a else []) := by
  cases n with
  | zero => exact List.getLast?_concat
  | succ n =>
    rw [List.replicate_succ', ← List.cons_append, ← List.append_assoc, List.getLast?_concat,
      if_neg (Nat.succ_ne_zero n)]

theorem getLast?_collapse_iff :
    (collapse ls).getLast? = some [] ↔ ls.getLast? = some [] ∧ ∃ l ∈ ls, l ≠ [] := by
  rcases exists_eq_replicate_or ls with ⟨n, rfl⟩ | ⟨u, a, n, ha, rfl⟩
  · have hall := collapseAfter_true_replicate n []
    rw [List.append_nil] at hall
    rw [collapse, hall]
    simp [collapseAfter]
  · -- the run at the end, if there is one, is behind the last line that is not blank
    have hrun := collapseAfter_false_replicate n []
    rw [List.append_nil] at hrun
    have hsolid : ∃ l ∈ u ++ a :: List.replicate n [], l ≠ [] :=
      ⟨a, List.mem_append_right u List.mem_cons_self, ha⟩
    have hmin : min n 1 = 0 ↔ n = 0 := by omega
    rw [collapse, collapseAfter_append_cons ha, hrun, collapseAfter_nil, List.append_nil,
      getLast?_append_replicate, getLast?_append_replicate, and_iff_left hsolid]
    simp only [hmin]

/-! ## All together -/

/-- What is left of some lines when blank lines are dropped as they should be. -/
structure Collapsed (ls out : List Text) : Prop where
  /-- The lines that are not blank stay, in their order. -/
  kept : solid out = solid ls
  /-- No blank line is at the start. -/
  start : out.head? ≠ some []
  /-- No two blank lines are next to each other. -/
  apart : out.IsChain Apart
  /-- Between two lines that are not blank there is one blank line if there was any. -/
  between : ∀ (u : List Text) (a : Text) (n : Nat) (b : Text) (v : List Text), a ≠ [] → b ≠ [] →
    ls = u ++ a :: (List.replicate n [] ++ b :: v) →
      ∃ u' v', out = u' ++ a :: (List.replicate (min n 1) [] ++ b :: v') ∧
        solid u' = solid u ∧ solid v' = solid v
  /-- A blank line is at the end if there was one, unless there is nothing to stand behind. -/
  ending : out.getLast? = some [] ↔ ls.getLast? = some [] ∧ ∃ l ∈ ls, l ≠ []

theorem collapsed_collapse (ls : List Text) : Collapsed ls (collapse ls) where
  kept := solid_collapseAfter true ls
  start := head?_collapseAfter ls
  apart := isChain_collapseAfter true ls
  between := by
    rintro u a n b v ha hb rfl
    refine ⟨collapse u, collapseAfter false v, ?_, solid_collapseAfter true u,
      solid_collapseAfter false v⟩
    rw [collapse, collapseAfter_append_cons ha, collapseAfter_false_replicate,
      collapseAfter_cons hb, collapse]
  ending := getLast?_collapse_iff

end AsmDispatch.Dispatch
