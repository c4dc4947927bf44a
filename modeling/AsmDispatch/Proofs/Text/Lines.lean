import AsmDispatch.Proofs.Text.Stream
import AsmDispatch.Proofs.Text.Within

/-!
# Lines put together and taken apart

Lines with a line feed between neighbours can be found again in the text if none of them holds an
end of a line, and blocks with an empty line between neighbours can be found again if none of them
but the last has an empty line in it.

## Main statements

* `lines_joinLines`: the lines of a text that was put together from lines.
* `within_isInLine_of_mem_lines`: the lines of a text hold no end of a line.
* `cutAt_join`: the blocks of a text that was put together from blocks.
-/

namespace AsmDispatch.Text

/-! ## Joined lines -/

theorem joinLines_cons {x : Text} {ys : List Text} (hys : ys ≠ []) :
    joinLines (x :: ys) = x ++ '\n' :: joinLines ys := by
  cases ys with
  | nil => exact absurd rfl hys
  | cons y ys => simp [joinLines, join, List.intercalate]

@[simp] theorem joinLines_singleton (x : Text) : joinLines [x] = x := by
  simp [joinLines, join]

/-- Two blocks with an empty line between them. -/
theorem joinLines_append {xs ys : List Text} (hxs : xs ≠ []) (hys : ys ≠ []) :
    joinLines (xs ++ [] :: ys) = joinLines xs ++ '\n' :: '\n' :: joinLines ys := by
  induction xs with
  | nil => exact absurd rfl hxs
  | cons x xs ih =>
    cases xs with
    | nil =>
      rw [List.singleton_append, joinLines_cons (List.cons_ne_nil _ _), joinLines_cons hys]
      simp
    | cons x' xs =>
      have htail := ih (List.cons_ne_nil x' xs)
      rw [List.cons_append, joinLines_cons (by simp), htail,
        joinLines_cons (List.cons_ne_nil x' xs), List.append_assoc]
      rfl

/-! ## Lines of a text -/

theorem cutLines_cons_of_isInLine {c : Char} (hc : isInLine c = true) (line t : Text) :
    cutLines endsLine line (c :: t) = cutLines endsLine (c :: line) t := by
  have hend : ¬ endsLine c = true := by simpa [isInLine] using hc
  rw [cutLines, if_neg hend]
  rintro r rfl -
  exact absurd hc (by decide)

/-- A line ends at the first line feed if it holds no end of a line. -/
theorem cutLines_append {l : Text} (hl : Within isInLine l) (line t : Text) :
    cutLines endsLine line (l ++ '\n' :: t) = (line.reverse ++ l) :: cutLines endsLine [] t := by
  induction l generalizing line with
  | nil =>
    rw [List.nil_append, List.append_nil, cutLines, if_pos (by decide)]
    rintro r hr
    cases hr
  | cons c l ih =>
    obtain ⟨hc, htail⟩ := within_cons.mp hl
    rw [List.cons_append, cutLines_cons_of_isInLine hc, ih htail, List.reverse_cons,
      List.append_assoc, List.singleton_append]

theorem lines_append {l : Text} (hl : Within isInLine l) (t : Text) :
    lines (l ++ '\n' :: t) = l :: lines t := cutLines_append hl [] t

/-- Lines that hold no end of a line are found again. -/
theorem lines_joinLines {ls : List Text} (hne : ls ≠ []) (hls : ∀ l ∈ ls, Within isInLine l) :
    lines (joinLines ls ++ ['\n']) = ls := by
  induction ls with
  | nil => exact absurd rfl hne
  | cons l ls ih =>
    obtain ⟨hl, htail⟩ := List.forall_mem_cons.mp hls
    cases ls with
    | nil =>
      rw [joinLines_singleton, lines_append hl]
      rfl
    | cons l' ls =>
      rw [joinLines_cons (List.cons_ne_nil _ _), List.append_assoc, List.cons_append,
        lines_append hl, ih (List.cons_ne_nil _ _) htail]

theorem within_isInLine_of_mem_cutLines {line t l : Text} (hline : Within isInLine line)
    (hl : l ∈ cutLines endsLine line t) : Within isInLine l := by
  have hreverse {u : Text} (hu : Within isInLine u) : Within isInLine u.reverse :=
    fun c hc => hu c (List.mem_reverse.mp hc)
  fun_induction cutLines endsLine line t with
  | case1 => cases hl
  | case2 line =>
    rw [List.mem_singleton.mp hl]
    exact hreverse hline
  | case3 line t _ ih | case5 line c t _ _ ih =>
    rcases List.mem_cons.mp hl with rfl | hl
    · exact hreverse hline
    · exact ih within_nil hl
  | case4 line t hend => exact absurd (by decide) hend
  | case6 line c t _ hend ih =>
    exact ih (within_cons.mpr ⟨by simpa [isInLine] using hend, hline⟩) hl

theorem within_isInLine_of_mem_lines {t l : Text} (hl : l ∈ lines t) : Within isInLine l :=
  within_isInLine_of_mem_cutLines within_nil hl

/-! ## Blocks of a text -/

/-- What stands in front of the first occurrence of a separator, and what behind it. -/
def breakAt? (sep : Text) : Text → Option (Text × Text)
  | [] => if sep.isEmpty then some ([], []) else none
  | c :: t =>
    if sep.isPrefixOf (c :: t) then some ([], (c :: t).drop sep.length)
    else (breakAt? sep t).map fun p => (c :: p.1, p.2)

/-- A text cut at the first `n` occurrences of a separator, or at all if there are fewer. -/
def cutAt (sep : Text) : Nat → Text → List Text
  | 0, t => [t]
  | n + 1, t =>
    match breakAt? sep t with
    | none => [t]
    | some (u, r) => u :: cutAt sep n r

/-- There are lines, none of them is empty, and all are within the class. -/
structure IsSolid (q : Char → Bool) (ls : List Text) : Prop where
  ne_nil : ls ≠ []
  line : ∀ l ∈ ls, l ≠ [] ∧ Within q l

theorem feed_beq_eq_false {c : Char} (hc : isNoFeed c = true) : ('\n' == c) = false :=
  beq_eq_false_iff_ne.mpr (bne_iff_ne.mp hc).symm

theorem breakAt?_append {u : Text} (hu : Within isNoFeed u) (t : Text) :
    breakAt? ['\n', '\n'] (u ++ t) =
      (breakAt? ['\n', '\n'] t).map fun p => (u ++ p.1, p.2) := by
  induction u with
  | nil => simp
  | cons c u ih =>
    obtain ⟨hc, htail⟩ := within_cons.mp hu
    rw [List.cons_append, breakAt?, List.isPrefixOf_cons_cons, feed_beq_eq_false hc,
      Bool.false_and, if_neg Bool.false_ne_true, ih htail, Option.map_map]
    rfl

/-- A line feed in front of a line that is not empty separates no blocks. -/
theorem breakAt?_cons {l : Text} (hne : l ≠ []) (hl : Within isNoFeed l) (t : Text) :
    breakAt? ['\n', '\n'] ('\n' :: (l ++ t)) =
      (breakAt? ['\n', '\n'] (l ++ t)).map fun p => ('\n' :: p.1, p.2) := by
  obtain ⟨c, l, rfl⟩ := List.exists_cons_of_ne_nil hne
  have hc := feed_beq_eq_false (within_cons.mp hl).1
  rw [List.cons_append, breakAt?, List.isPrefixOf_cons_cons, List.isPrefixOf_cons_cons, hc,
    Bool.false_and, Bool.and_false, if_neg Bool.false_ne_true]

/-- The first empty line behind a solid block is the one that was put there. -/
theorem breakAt?_joinLines {ls : List Text} (hls : IsSolid isNoFeed ls) (r : Text) :
    breakAt? ['\n', '\n'] (joinLines ls ++ '\n' :: '\n' :: r) = some (joinLines ls, r) := by
  obtain ⟨hne, hlines⟩ := hls
  induction ls with
  | nil => exact absurd rfl hne
  | cons l ls ih =>
    obtain ⟨⟨-, hl⟩, htail⟩ := List.forall_mem_cons.mp hlines
    cases ls with
    | nil =>
      rw [joinLines_singleton, breakAt?_append hl]
      simp [breakAt?]
    | cons l' ls =>
      obtain ⟨hne', hl'⟩ := htail l' List.mem_cons_self
      obtain ⟨u, hu⟩ : ∃ u, joinLines (l' :: ls) = l' ++ u := by
        cases ls with
        | nil => exact ⟨[], by simp⟩
        | cons l'' ls => exact ⟨_, joinLines_cons (List.cons_ne_nil _ _)⟩
      have hbreak := ih (List.cons_ne_nil _ _) htail
      rw [joinLines_cons (List.cons_ne_nil _ _), List.append_assoc, breakAt?_append hl,
        List.cons_append]
      rw [hu, List.append_assoc] at hbreak ⊢
      rw [breakAt?_cons hne' hl', hbreak]
      simp

/-- Solid blocks in front of any text are found again. -/
theorem cutAt_join {bs : List (List Text)} (hbs : ∀ b ∈ bs, IsSolid isNoFeed b) (last : Text) :
    cutAt ['\n', '\n'] bs.length (join ['\n', '\n'] (bs.map joinLines ++ [last])) =
      bs.map joinLines ++ [last] := by
  induction bs with
  | nil => simp [cutAt, join]
  | cons b bs ih =>
    obtain ⟨hb, htail⟩ := List.forall_mem_cons.mp hbs
    have hjoin : join ['\n', '\n'] ((b :: bs).map joinLines ++ [last]) =
        joinLines b ++ '\n' :: '\n' :: join ['\n', '\n'] (bs.map joinLines ++ [last]) := by
      cases bs <;> simp [join, List.intercalate]
    rw [hjoin, List.length_cons, cutAt, breakAt?_joinLines hb]
    exact congrArg _ (ih htail)

theorem pieces_of_not_mem {sep : Char} {t : Text} (ht : sep ∉ t) : pieces sep t = [t] := by
  induction t with
  | nil => rfl
  | cons c t ih =>
    obtain ⟨hc, htail⟩ := not_or.mp (List.mem_cons.not.mp ht)
    rw [pieces, if_neg (Ne.symm hc), ih htail]

/-- The pieces between the line feeds of joined lines are the lines. -/
theorem pieces_joinLines {ls : List Text} (hne : ls ≠ []) (hls : ∀ l ∈ ls, Within isNoFeed l) :
    pieces '\n' (joinLines ls) = ls := by
  induction ls with
  | nil => exact absurd rfl hne
  | cons l ls ih =>
    obtain ⟨hl, htail⟩ := List.forall_mem_cons.mp hls
    have hfeed := within_isNoFeed_iff.mp hl
    cases ls with
    | nil => rw [joinLines_singleton, pieces_of_not_mem hfeed]
    | cons l' ls =>
      rw [joinLines_cons (List.cons_ne_nil _ _), pieces_append hfeed,
        ih (List.cons_ne_nil _ _) htail]

/-- A text that ends with the separator has an empty piece behind it. -/
theorem exists_pieces_append (sep : Char) (t : Text) :
    ∃ p ps, pieces sep (t ++ [sep]) = p :: ps ∧ [] ∈ ps := by
  induction t with
  | nil => exact ⟨[], [[]], by simp [pieces], List.mem_singleton_self _⟩
  | cons c t ih =>
    obtain ⟨p, ps, hpieces, hmem⟩ := ih
    rw [List.cons_append, pieces, hpieces]
    split
    · exact ⟨_, _, rfl, List.mem_cons_of_mem _ hmem⟩
    · exact ⟨_, _, rfl, hmem⟩

/-- A text without empty pieces neither starts nor ends with the separator. -/
theorem head?_and_getLast?_ne {sep : Char} {t : Text} (ht : ∀ p ∈ pieces sep t, p ≠ []) :
    t.head? ≠ some sep ∧ t.getLast? ≠ some sep := by
  constructor
  · intro hhead
    obtain ⟨r, rfl⟩ := List.head?_eq_some_iff.mp hhead
    rw [pieces, if_pos rfl] at ht
    exact ht [] List.mem_cons_self rfl
  · intro hlast
    obtain ⟨r, rfl⟩ := List.getLast?_eq_some_iff.mp hlast
    obtain ⟨p, ps, hpieces, hmem⟩ := exists_pieces_append sep r
    rw [hpieces] at ht
    exact ht [] (List.mem_cons_of_mem _ hmem) rfl

end AsmDispatch.Text
