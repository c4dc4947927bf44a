import AsmDispatch.Proofs.Text.Class
import AsmDispatch.Proofs.Text.Numeral
import AsmDispatch.Text.Case
import AsmDispatch.Text.Identifier
import AsmDispatch.Text.Lines

/-!
# Texts within a class of characters

What is written out is put together from words, from fixed texts in the visible part of ASCII, and
from parts of the source.  A class that holds the first two holds everything as soon as it holds the
third.  The classes in question leave out ends of lines, either the line feed alone or all of them.
No end of a line is part of a word or of an identifier, and no change of case leads to one.

## Main statements

* `Admits.within_decimal`, `Admits.within_hex`: numerals are within every class in question.
* `keepsCase_isInLine`: changes of case lead to no end of a line.
* `within_isInLine_of_isIdentifier`: identifiers hold no end of a line.
-/

namespace AsmDispatch.Text

/-- All characters of the text are of the class. -/
def Within (q : Char → Bool) (t : Text) : Prop := ∀ c ∈ t, q c = true

section Within

variable {q : Char → Bool} {t u : Text}

@[simp] theorem within_nil : Within q [] := List.forall_mem_nil _

@[simp] theorem within_cons {c : Char} : Within q (c :: t) ↔ q c = true ∧ Within q t :=
  List.forall_mem_cons

@[simp] theorem within_append : Within q (t ++ u) ↔ Within q t ∧ Within q u :=
  List.forall_mem_append

theorem Within.subset (hu : Within q u) (h : t ⊆ u) : Within q t := fun c hc => hu c (h hc)

theorem within_join {sep : Text} {ts : List Text} (hsep : Within q sep)
    (hts : ∀ t ∈ ts, Within q t) : Within q (join sep ts) := by
  induction ts with
  | nil => exact within_nil
  | cons t ts ih =>
    obtain ⟨ht, htail⟩ := List.forall_mem_cons.mp hts
    cases ts with
    | nil => simpa [join] using ht
    | cons t' ts =>
      have hjoin : join sep (t :: t' :: ts) = t ++ (sep ++ join sep (t' :: ts)) := by
        simp [join, List.intercalate]
      rw [hjoin, within_append, within_append]
      exact ⟨ht, hsep, ih htail⟩

theorem stripStart_subset (t : Text) : stripStart t ⊆ t := (List.dropWhile_sublist _).subset

theorem stripEnd_subset (t : Text) : stripEnd t ⊆ t := by
  unfold stripEnd
  intro c hc
  rw [List.mem_reverse] at hc
  exact List.mem_reverse.mp ((List.dropWhile_sublist _).subset hc)

/-- Stripping drops characters and adds none. -/
theorem strip_subset (t : Text) : strip t ⊆ t :=
  List.Subset.trans (stripEnd_subset _) (stripStart_subset t)

end Within

/-! ## Classes that hold what is always written -/

/-- A character of ASCII that shows, or a space. -/
def isVisible (c : Char) : Bool := 0x20 ≤ c.toNat && c.toNat ≤ 0x7e

/-- The class holds words and the visible part of ASCII. -/
structure Admits (q : Char → Bool) : Prop where
  word : ∀ c, isWord c = true → q c = true
  visible : ∀ c, isVisible c = true → q c = true

namespace Admits

variable {q : Char → Bool} (hq : Admits q) {t : Text}

include hq

theorem within_of_all (ht : t.all isVisible = true) : Within q t :=
  fun c hc => hq.visible c (List.all_eq_true.mp ht c hc)

theorem within_of_isWordRun (ht : IsWordRun t) : Within q t :=
  fun c hc => hq.word c (ht.all_word c hc)

theorem within_spaces (n : Nat) : Within q (spaces n) := by
  intro c hc
  rw [List.eq_of_mem_replicate hc]
  exact hq.visible ' ' (by decide)

theorem within_toDigits {base : Nat} (hbase : 1 < base) (hle : base ≤ 16) (n : Nat) :
    Within q (Nat.toDigits base n) := by
  intro c hc
  obtain ⟨d, hd, rfl⟩ := exists_digit_of_mem_toDigits hbase hc
  have hdigits : (List.range 16).all (fun d => isVisible d.digitChar) = true := by decide
  exact hq.visible _ (List.all_eq_true.mp hdigits d (List.mem_range.mpr (hd.trans_le hle)))

theorem within_signed {base : Nat} (hbase : 1 < base) (hle : base ≤ 16) (n : Int) :
    Within q (signed base n) := by
  cases n with
  | ofNat n => exact hq.within_toDigits hbase hle n
  | negSucc n =>
    exact within_cons.mpr ⟨hq.visible '-' (by decide), hq.within_toDigits hbase hle (n + 1)⟩

theorem within_decimal (n : Int) : Within q (decimal n) :=
  hq.within_signed (by decide) (by decide) n

theorem within_hex (n : Int) : Within q (hex n) :=
  within_append.mpr ⟨hq.within_of_all (by decide), hq.within_signed (by decide) (by decide) n⟩

end Admits

/-! ## Characters that end no line -/

/-- Not a line feed. -/
def isNoFeed (c : Char) : Bool := c != '\n'

/-- Not the end of a line in the wide sense. -/
def isInLine (c : Char) : Bool := !endsLine c

theorem isNoFeed_of_isInLine {c : Char} (h : isInLine c = true) : isNoFeed c = true := by
  rw [isNoFeed, bne_iff_ne]
  rintro rfl
  exact absurd h (by decide)

/-- A fact about the ends of lines can be checked for each of them. -/
theorem of_endsLine {p : Char → Bool} (hall : lineEnds.codes.all (fun n => p (Char.ofNat n)) = true)
    {c : Char} (h : endsLine c = true) : p c = true := by
  have hc := List.all_eq_true.mp hall c.toNat (Ranges.mem_codes_iff.mpr h)
  rwa [Char.ofNat_toNat] at hc

/-- A class that holds no end of a line is within the characters that are in a line. -/
theorem isInLine_of_class {p : Char → Bool}
    (hall : lineEnds.codes.all (fun n => !p (Char.ofNat n)) = true) {c : Char} (h : p c = true) :
    isInLine c = true := by
  rw [isInLine, Bool.not_eq_true']
  refine Bool.eq_false_iff.mpr fun hend => ?_
  have hp := of_endsLine (p := fun c => !p c) hall hend
  rw [h] at hp
  cases hp

theorem admits_isInLine : Admits isInLine where
  word _ h := isInLine_of_class (by decide +kernel) h
  visible _ h := isInLine_of_class (by decide +kernel) h

theorem admits_isNoFeed : Admits isNoFeed where
  word c h := isNoFeed_of_isInLine (admits_isInLine.word c h)
  visible c h := isNoFeed_of_isInLine (admits_isInLine.visible c h)

theorem within_isNoFeed_iff {t : Text} : Within isNoFeed t ↔ '\n' ∉ t := by
  constructor
  · intro h hmem
    exact absurd (h '\n' hmem) (by decide)
  · intro h c hc
    rw [isNoFeed, bne_iff_ne]
    rintro rfl
    exact h hc

theorem within_isInLine_of_isIdentifier {t : Text} (ht : isIdentifier t = true) :
    Within isInLine t := by
  cases t with
  | nil => cases ht
  | cons c t =>
    rw [isIdentifier, Bool.and_eq_true] at ht
    refine within_cons.mpr ⟨isInLine_of_class (by decide +kernel) ht.1, fun d hd => ?_⟩
    exact isInLine_of_class (by decide +kernel) (List.all_eq_true.mp ht.2 d hd)

/-! ## Changes of case -/

/-- Changes of case stay in the class. -/
structure KeepsCase (q : Char → Bool) : Prop where
  toUpper : ∀ c, q c = true → Within q (upperChar c)
  toLower : ∀ c, q c = true → Within q (lowerChar c)

theorem KeepsCase.within_upper {q : Char → Bool} (hq : KeepsCase q) {t : Text} (ht : Within q t) :
    Within q (upper t) := by
  intro c hc
  obtain ⟨d, hd, hc⟩ := List.mem_flatMap.mp hc
  exact hq.toUpper d (ht d hd) c hc

theorem KeepsCase.within_lower {q : Char → Bool} (hq : KeepsCase q) (hword : Admits q) {t : Text}
    (ht : Within q t) : Within q (lower t) := by
  suffices hafter : ∀ before, Within q (lowerAfter before t) from hafter []
  induction t with
  | nil => exact fun _ => within_nil
  | cons c t ih =>
    obtain ⟨hc, htail⟩ := within_cons.mp ht
    intro before
    rw [lowerAfter, within_append]
    refine ⟨?_, ih htail _⟩
    split
    · split
      · exact within_cons.mpr ⟨hword.word 'ς' (by decide +kernel), within_nil⟩
      · exact within_cons.mpr ⟨hword.word 'σ' (by decide +kernel), within_nil⟩
    · exact hq.toLower c hc

/-- No code point that the shift moves comes to lie in the ranges. -/
def Shift.avoids (s : Shift) (rs : Ranges) : Bool :=
  rs.all fun r => decide (s.last + s.offset < r.1) || decide (r.2 < s.first + s.offset)

theorem Shift.has_eq_false_of_move? {s : Shift} {rs : Ranges} (hs : s.avoids rs = true)
    (hzero : rs.has 0 = false) {n m : Nat} (hm : s.move? n = some m) : rs.has m = false := by
  unfold move? at hm
  split at hm
  · next hrange =>
    cases hm
    by_cases hneg : (n : Int) + s.offset ≤ 0
    · rwa [Int.toNat_of_nonpos hneg]
    · refine Bool.eq_false_iff.mpr fun hhas => ?_
      obtain ⟨r, hr, hlo, hhi⟩ := Ranges.has_eq_true_iff.mp hhas
      have havoids := List.all_eq_true.mp hs r hr
      rw [Bool.or_eq_true, decide_eq_true_eq, decide_eq_true_eq] at havoids
      omega
  · cases hm

/-- A table of case changes leads to no end of a line. -/
def avoidsLineEnds (shifts : List Shift) (spread : List (Nat × List Nat)) : Bool :=
  shifts.all (·.avoids lineEnds) && spread.all fun e => e.2.all fun n => !lineEnds.has n

theorem isInLine_ofNat {n : Nat} (hn : lineEnds.has n = false) :
    isInLine (Char.ofNat n) = true := by
  rw [isInLine, endsLine, Bool.not_eq_true']
  by_cases hvalid : n.isValidChar
  · rwa [Char.ofNat, dif_pos hvalid]
  · rw [Char.ofNat, dif_neg hvalid]
    decide

theorem within_isInLine_of_recase? {shifts : List Shift} {spread : List (Nat × List Nat)}
    (h : avoidsLineEnds shifts spread = true) {c : Char} {t : Text}
    (ht : recase? shifts spread c = some t) : Within isInLine t := by
  rw [avoidsLineEnds, Bool.and_eq_true] at h
  unfold recase? at ht
  split at ht
  · next ns hns =>
    cases ht
    intro d hd
    obtain ⟨n, hn, rfl⟩ := List.mem_map.mp hd
    obtain ⟨before, behind, hsplit, -⟩ := List.lookup_eq_some_iff.mp hns
    have hmem : (c.toNat, ns) ∈ spread := by simp [hsplit]
    have hspread := List.all_eq_true.mp h.2 _ hmem
    exact isInLine_ofNat (by simpa using List.all_eq_true.mp hspread n hn)
  · obtain ⟨n, hn, rfl⟩ := Option.map_eq_some_iff.mp ht
    obtain ⟨s, hs, hmove⟩ := List.exists_of_findSome?_eq_some hn
    have havoids := List.all_eq_true.mp h.1 s hs
    have hno := s.has_eq_false_of_move? havoids (by decide) hmove
    exact within_cons.mpr ⟨isInLine_ofNat hno, within_nil⟩

/-- Within ASCII the case of a character that ends no line can be changed. -/
theorem isInLine_of_ascii {f : Char → Char}
    (hall : (List.range 0x80).all (fun n =>
      !isInLine (Char.ofNat n) || isInLine (f (Char.ofNat n))) = true)
    {c : Char} (hascii : c.toNat < 0x80) (hc : isInLine c = true) : isInLine (f c) = true := by
  have hf := List.all_eq_true.mp hall c.toNat (List.mem_range.mpr hascii)
  rw [Char.ofNat_toNat, hc] at hf
  simpa using hf

theorem keepsCase_isInLine : KeepsCase isInLine where
  toUpper c hc := by
    unfold upperChar
    split
    · next hascii =>
      exact within_cons.mpr ⟨isInLine_of_ascii (by decide +kernel) hascii hc, within_nil⟩
    · cases hrecase : recase? upperShifts upperSpread c with
      | none => exact within_cons.mpr ⟨hc, within_nil⟩
      | some t => exact within_isInLine_of_recase? (by decide +kernel) hrecase
  toLower c hc := by
    unfold lowerChar
    split
    · next hascii =>
      exact within_cons.mpr ⟨isInLine_of_ascii (by decide +kernel) hascii hc, within_nil⟩
    · cases hrecase : recase? lowerShifts lowerSpread c with
      | none => exact within_cons.mpr ⟨hc, within_nil⟩
      | some t => exact within_isInLine_of_recase? (by decide +kernel) hrecase

end AsmDispatch.Text
