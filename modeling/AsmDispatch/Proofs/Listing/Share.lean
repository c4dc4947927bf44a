import AsmDispatch.Listing
import AsmDispatch.Proofs.Line.Layout

/-!
# Every line has its share

A listing is put together from the shares of the lines of source: one or two records, or one fault
with the text of the line.  Nothing is left out and nothing is said twice, and since the only thing
that one line hands on to the next is its number, a source in two parts has the listing of the first
part and behind it that of the second with its numbers moved.

Two rules for the end of a line meet here.  Faults show the line without its carriage returns and
line feeds, and records come from the line without any blanks.  They cannot disagree, since what the
first rule takes off is blank.

## Main statements

* `Listing.ofLinesFrom_cons`: one line more in front of a source.
* `Listing.ofLinesFrom_append`, `Listing.ofLinesFrom_add`: the two halves of the law for sources in
  two parts.
* `Listing.every_line_accounted_for`: the shares, their order and the law.
-/

namespace AsmDispatch

/-! ## The end of a line -/

namespace Text

/-- The text `u` is the line `t` without the carriage returns and line feeds at its end. -/
structure IsBareLine (t u : Text) : Prop where
  exists_end : ∃ v, t = u ++ v ∧ ∀ c ∈ v, c = '\r' ∨ c = '\n'
  last : ∀ c ∈ u.getLast?, c ≠ '\r' ∧ c ≠ '\n'

variable {t v : Text}

theorem isBareLine_dropLineEnd (t : Text) : IsBareLine t (dropLineEnd t) := by
  constructor
  · refine ⟨t.rtakeWhile fun c => c == '\r' || c == '\n', ?_, ?_⟩
    · exact List.rdropWhile_append_rtakeWhile.symm
    · intro c hc
      simpa using List.mem_rtakeWhile_imp hc
  · intro c hc
    have hstop := stops_dropWhile (fun c => c == '\r' || c == '\n') t.reverse c
    rw [dropLineEnd, List.getLast?_reverse] at hc
    simpa using hstop hc

theorem dropLineEnd_append (hv : ∀ c ∈ v, c = '\r' ∨ c = '\n') :
    dropLineEnd (t ++ v) = dropLineEnd t := by
  have hrev : ∀ c ∈ v.reverse, (c == '\r' || c == '\n') = true := by
    intro c hc
    simpa using hv c (List.mem_reverse.mp hc)
  rw [dropLineEnd, List.reverse_append, List.dropWhile_append_of_pos hrev, dropLineEnd]

/-- What is dropped at the end of a line is blank, so it would be stripped anyway. -/
theorem stripEnd_dropLineEnd (t : Text) : stripEnd (dropLineEnd t) = stripEnd t := by
  obtain ⟨v, ht, hv⟩ := (isBareLine_dropLineEnd t).exists_end
  have hblank : ∀ c ∈ v, isBlank c = true := by
    intro c hc
    rcases hv c hc with rfl | rfl
    · decide
    · decide
  conv_rhs => rw [ht, stripEnd_append_of_blank hblank]

end Text

theorem classify?_dropLineEnd (t : Text) : classify? (Text.dropLineEnd t) = classify? t := by
  rw [classify?, Text.stripEnd_dropLineEnd, classify?]

/-- A line has one record, or two if it starts with a label. -/
theorem length_of_classify? {t : Text} {rs : List Record} (h : classify? t = some rs) :
    rs.length = 1 ∨ rs.length = 2 := by
  obtain ⟨l, -, rfl⟩ := Form.exists_layout_of_classify? h
  cases l with
  | blank | comment | definition | directive | label | instruction => exact Or.inl rfl
  | labelledInstruction | labelledDirective => exact Or.inr rfl

/-! ## Listings one behind the other -/

/-- The place some lines further down. -/
def Location.shift (n : Nat) (p : Location) : Location := { p with line := p.line + n }

def Line.shift (n : Nat) (l : Line) : Line := { l with location := l.location.map (·.shift n) }

def Fault.shift (n : Nat) (f : Fault) : Fault := { f with location := f.location.map (·.shift n) }

namespace Listing

variable {filename : Text} {number n first last : Nat} {t : Text} {ts : List Text}

instance : Append Listing where
  append l m := { lines := l.lines ++ m.lines, unknown := l.unknown ++ m.unknown }

@[simp] theorem lines_append (l m : Listing) : (l ++ m).lines = l.lines ++ m.lines := rfl

@[simp] theorem unknown_append (l m : Listing) : (l ++ m).unknown = l.unknown ++ m.unknown := rfl

/-- The listing with all its line numbers moved. -/
def shift (n : Nat) (l : Listing) : Listing where
  lines := l.lines.map (·.shift n)
  unknown := l.unknown.map (·.shift n)

theorem shift_append (n : Nat) (l m : Listing) : (l ++ m).shift n = l.shift n ++ m.shift n := by
  change Listing.mk _ _ = Listing.mk _ _
  rw [lines_append, unknown_append, List.map_append, List.map_append]
  rfl

theorem append_assoc (l m k : Listing) : l ++ m ++ k = l ++ (m ++ k) := by
  change Listing.mk _ _ = Listing.mk _ _
  simp only [lines_append, unknown_append, List.append_assoc]

/-! ## Shares -/

/-- What a line of source gives: the one or two records that are recognised in it, or a fault with
its text, all of it at the place of the line. -/
inductive IsShare (filename : Text) (number : Nat) (t : Text) : Listing → Prop
  | records {rs : List Record} (recognised : classify? t = some rs)
      (few : rs.length = 1 ∨ rs.length = 2) :
      IsShare filename number t
        { lines := rs.map fun record =>
            { record, location := some { filename, line := number, column := 1 } }
          unknown := [] }
  | fault {u : Text} (unrecognised : classify? t = none) (bare : Text.IsBareLine t u) :
      IsShare filename number t
        { lines := []
          unknown := [{ cause := .unknownLine u
                        location := some { filename, line := number, column := 1 } }] }

/-- The listing of a single line. -/
theorem ofLinesFrom_singleton (filename : Text) (number : Nat) (t : Text) :
    ofLinesFrom filename number [t] =
      match classify? t with
      | some rs =>
        { lines := rs.map fun record => { record, location := some { filename, line := number } } }
      | none =>
        { unknown := [{ cause := .unknownLine (Text.dropLineEnd t)
                        location := some { filename, line := number } }] } := by
  rw [ofLinesFrom, readLine, classify?_dropLineEnd]
  cases classify? t with
  | some rs => simp only [ofLinesFrom, List.append_nil]
  | none => rfl

theorem isShare_singleton (filename : Text) (number : Nat) (t : Text) :
    IsShare filename number t (ofLinesFrom filename number [t]) := by
  rw [ofLinesFrom_singleton]
  cases h : classify? t with
  | some rs => exact .records h (length_of_classify? h)
  | none => exact .fault h (Text.isBareLine_dropLineEnd t)

/-- The share of a line stands in front of what the lines behind it give. -/
theorem ofLinesFrom_cons (filename : Text) (number : Nat) (t : Text) (ts : List Text) :
    ofLinesFrom filename number (t :: ts) =
      ofLinesFrom filename number [t] ++ ofLinesFrom filename (number + 1) ts := by
  rw [ofLinesFrom, ofLinesFrom]
  cases readLine (some { filename, line := number }) (Text.dropLineEnd t) with
  | ok ls =>
    change Listing.mk _ _ = Listing.mk _ _
    simp [ofLinesFrom]
  | error f => rfl

/-- A source in two parts: the second part starts with the number behind the first. -/
theorem ofLinesFrom_append (filename : Text) (number : Nat) (xs ys : List Text) :
    ofLinesFrom filename number (xs ++ ys) =
      ofLinesFrom filename number xs ++ ofLinesFrom filename (number + xs.length) ys := by
  induction xs generalizing number with
  | nil => rfl
  | cons x xs ih =>
    rw [List.cons_append, ofLinesFrom_cons, ih, ofLinesFrom_cons filename number x xs, append_assoc,
      List.length_cons, Nat.add_assoc, Nat.add_comm 1]

/-- The number of the first line shows in the places and nowhere else. -/
theorem ofLinesFrom_add (filename : Text) (number n : Nat) (ts : List Text) :
    ofLinesFrom filename (number + n) ts = (ofLinesFrom filename number ts).shift n := by
  induction ts generalizing number with
  | nil => rfl
  | cons t ts ih =>
    have hplace : (some { filename, line := ((number + n : Nat) : Int) } : Option Location) =
        (some ({ filename, line := number } : Location)).map (·.shift n) := by
      rw [Int.natCast_add]
      rfl
    have hshare : ofLinesFrom filename (number + n) [t] =
        (ofLinesFrom filename number [t]).shift n := by
      rw [ofLinesFrom_singleton, ofLinesFrom_singleton, hplace]
      cases classify? t with
      | some rs =>
        rw [shift, List.map_map]
        rfl
      | none => rfl
    rw [ofLinesFrom_cons, ofLinesFrom_cons filename number, shift_append, hshare, ← ih,
      Nat.add_right_comm]

/-- Line ends make no difference, whatever they are. -/
theorem ofLinesFrom_zipWith_append {ends : List Text} (hlength : ends.length = ts.length)
    (hends : ∀ v ∈ ends, ∀ c ∈ v, c = '\r' ∨ c = '\n') :
    ofLinesFrom filename number (List.zipWith (· ++ ·) ts ends) =
      ofLinesFrom filename number ts := by
  induction ts generalizing number ends with
  | nil => rfl
  | cons t ts ih =>
    obtain ⟨v, ends, rfl⟩ := List.exists_cons_of_length_eq_add_one hlength
    obtain ⟨hv, hrest⟩ := List.forall_mem_cons.mp hends
    rw [List.zipWith_cons_cons, ofLinesFrom, ofLinesFrom, Text.dropLineEnd_append hv,
      ih (Nat.succ.inj hlength) hrest]

/-! ## Where everything stands -/

/-- The place is on a line of the file with a number in the given range. -/
def IsAt (filename : Text) (first last : Nat) (p : Option Location) : Prop :=
  ∃ n : Nat, first ≤ n ∧ n < last ∧ p = some { filename, line := n, column := 1 }

/-- Everything in the listing comes from the lines of the file with these numbers. -/
structure LiesIn (filename : Text) (first last : Nat) (l : Listing) : Prop where
  lines : ∀ m ∈ l.lines, IsAt filename first last m.location
  unknown : ∀ f ∈ l.unknown, IsAt filename first last f.location

theorem IsShare.liesIn {l : Listing} (h : IsShare filename number t l) :
    l.LiesIn filename number (number + 1) := by
  have hplace : IsAt filename number (number + 1)
      (some { filename, line := number, column := 1 }) :=
    ⟨number, Nat.le_refl _, Nat.lt_succ_self _, rfl⟩
  cases h with
  | records _ _ =>
    refine ⟨?_, List.forall_mem_nil _⟩
    intro m hm
    obtain ⟨r, -, rfl⟩ := List.mem_map.mp hm
    exact hplace
  | fault _ _ => exact ⟨List.forall_mem_nil _, List.forall_mem_singleton.mpr hplace⟩

namespace LiesIn

variable {l m : Listing} {first' last' : Nat}

theorem mono (h : l.LiesIn filename first last) (hfirst : first' ≤ first) (hlast : last ≤ last') :
    l.LiesIn filename first' last' := by
  have hplace {p : Option Location} (hp : IsAt filename first last p) :
      IsAt filename first' last' p := by
    obtain ⟨n, hle, hlt, rfl⟩ := hp
    exact ⟨n, Nat.le_trans hfirst hle, Nat.lt_of_lt_of_le hlt hlast, rfl⟩
  exact ⟨fun k hk => hplace (h.lines k hk), fun f hf => hplace (h.unknown f hf)⟩

theorem append (hl : l.LiesIn filename first last) (hm : m.LiesIn filename first last) :
    (l ++ m).LiesIn filename first last :=
  ⟨List.forall_mem_append.mpr ⟨hl.lines, hm.lines⟩,
    List.forall_mem_append.mpr ⟨hl.unknown, hm.unknown⟩⟩

end LiesIn

theorem liesIn_ofLinesFrom (filename : Text) (number : Nat) (ts : List Text) :
    (ofLinesFrom filename number ts).LiesIn filename number (number + ts.length) := by
  induction ts generalizing number with
  | nil => exact ⟨List.forall_mem_nil _, List.forall_mem_nil _⟩
  | cons t ts ih =>
    have hshare := (isShare_singleton filename number t).liesIn
    have hrest := ih (number + 1)
    rw [ofLinesFrom_cons, List.length_cons]
    exact (hshare.mono (Nat.le_refl _) (by omega)).append
      (hrest.mono (by omega) (by omega))

/-- The first of two places is on a line in front of the second, or on the same one. -/
def NotBehind (p q : Option Location) : Prop := ∀ a ∈ p, ∀ b ∈ q, a.line ≤ b.line

/-- The first of two places is on a line in front of the second. -/
def InFront (p q : Option Location) : Prop := ∀ a ∈ p, ∀ b ∈ q, a.line < b.line

/-- Records and faults are both in the order of their lines; no line has two faults. -/
structure InOrder (l : Listing) : Prop where
  lines : l.lines.Pairwise fun a b => NotBehind a.location b.location
  unknown : l.unknown.Pairwise fun f g => InFront f.location g.location

theorem IsAt.inFront {p q : Option Location} (hp : IsAt filename first number p)
    (hq : IsAt filename number last q) : InFront p q := by
  obtain ⟨a, -, ha, rfl⟩ := hp
  obtain ⟨b, hb, -, rfl⟩ := hq
  intro x hx y hy
  cases hx
  cases hy
  exact Int.ofNat_lt.mpr (Nat.lt_of_lt_of_le ha hb)

theorem InFront.notBehind {p q : Option Location} (h : InFront p q) : NotBehind p q :=
  fun a ha b hb => Int.le_of_lt (h a ha b hb)

theorem IsShare.inOrder {l : Listing} (h : IsShare filename number t l) : l.InOrder := by
  cases h with
  | records _ _ =>
    refine ⟨?_, .nil⟩
    rw [List.pairwise_map]
    -- the records of one line have the same place
    refine List.pairwise_of_forall ?_
    intro r s a ha b hb
    cases ha
    cases hb
    exact Int.le_refl _
  | fault _ _ => exact ⟨.nil, List.pairwise_singleton _ _⟩

/-- What comes from earlier lines may stand in front of what comes from later ones. -/
theorem InOrder.append {l m : Listing} (hl : l.InOrder) (hm : m.InOrder)
    (hlin : l.LiesIn filename first number) (hmin : m.LiesIn filename number last) :
    (l ++ m).InOrder := by
  constructor
  · refine List.pairwise_append.mpr ⟨hl.lines, hm.lines, ?_⟩
    intro a ha b hb
    exact ((hlin.lines a ha).inFront (hmin.lines b hb)).notBehind
  · refine List.pairwise_append.mpr ⟨hl.unknown, hm.unknown, ?_⟩
    intro f hf g hg
    exact (hlin.unknown f hf).inFront (hmin.unknown g hg)

theorem inOrder_ofLinesFrom (filename : Text) (number : Nat) (ts : List Text) :
    (ofLinesFrom filename number ts).InOrder := by
  induction ts generalizing number with
  | nil => exact ⟨.nil, .nil⟩
  | cons t ts ih =>
    have hshare := isShare_singleton filename number t
    rw [ofLinesFrom_cons]
    exact hshare.inOrder.append (ih (number + 1)) hshare.liesIn (liesIn_ofLinesFrom _ _ _)

/-! ## The account -/

/-- The listing accounts for the lines of a file. -/
structure Accounts (filename : Text) (ts : List Text) (l : Listing) : Prop where
  /-- Every line has its share, behind everything that comes from the lines in front of it and in
  front of everything that comes from the lines behind it. -/
  share : ∀ (i : Nat) (t : Text), ts[i]? = some t → ∃ earlier share later : Listing,
    l = earlier ++ share ++ later ∧ IsShare filename (i + 1) t share ∧
      earlier.LiesIn filename 1 (i + 1) ∧ later.LiesIn filename (i + 2) (ts.length + 1)
  /-- There is nothing else, -/
  within : l.LiesIn filename 1 (ts.length + 1)
  /-- and everything is in order. -/
  inOrder : l.InOrder
  /-- The listing of a source in two parts is that of the first part, and behind it that of the
  second with its numbers moved. -/
  append : ∀ xs ys : List Text, ts = xs ++ ys →
    l = ofLines filename xs ++ (ofLines filename ys).shift xs.length
  /-- More carriage returns and line feeds at the ends of the lines change nothing. -/
  ends : ∀ ends : List Text, ends.length = ts.length →
    (∀ v ∈ ends, ∀ c ∈ v, c = '\r' ∨ c = '\n') →
      ofLines filename (List.zipWith (· ++ ·) ts ends) = l

theorem every_line_accounted_for (filename : Text) (ts : List Text) :
    Accounts filename ts (ofLines filename ts) where
  share := by
    intro i t ht
    obtain ⟨hi, rfl⟩ := List.getElem?_eq_some_iff.mp ht
    have hcut : ts = ts.take i ++ ts[i] :: ts.drop (i + 1) := by
      rw [← List.drop_eq_getElem_cons hi, List.take_append_drop]
    have hlength : (ts.take i).length = i := by rw [List.length_take, Nat.min_eq_left hi.le]
    refine ⟨ofLinesFrom filename 1 (ts.take i), ofLinesFrom filename (i + 1) [ts[i]],
      ofLinesFrom filename (i + 2) (ts.drop (i + 1)), ?_, isShare_singleton _ _ _, ?_, ?_⟩
    · have happend := ofLinesFrom_append filename 1 (ts.take i) (ts[i] :: ts.drop (i + 1))
      rw [← hcut, hlength, Nat.add_comm 1, ofLinesFrom_cons, ← append_assoc] at happend
      exact happend
    · refine (liesIn_ofLinesFrom _ _ _).mono (Nat.le_refl _) ?_
      omega
    · refine (liesIn_ofLinesFrom _ _ _).mono (Nat.le_refl _) ?_
      rw [List.length_drop]
      omega
  within := (liesIn_ofLinesFrom _ _ _).mono (Nat.le_refl _) (Nat.le_of_eq (Nat.add_comm _ _))
  inOrder := inOrder_ofLinesFrom _ _ _
  append := by
    rintro xs ys rfl
    rw [ofLines, ofLinesFrom_append, ofLinesFrom_add]
    rfl
  ends := fun _ hlength hends => ofLinesFrom_zipWith_append hlength hends

end Listing

end AsmDispatch
