/-! # Text

Source, output and messages are sequences of Unicode scalar values. Strings appear only at the outer
edge, where bytes come in and go out. -/

namespace AsmDispatch

/-- A sequence of Unicode scalar values. -/
abbrev Text := List Char

namespace Text

/-- The characters of a string; lets fixed words be written as string literals. -/
@[coe] def ofString (s : String) : Text := s.toList

instance : Coe String Text := ⟨ofString⟩

@[simp] theorem ofString_eq (s : String) : ofString s = s.toList := rfl

/-- The pieces of a text between the occurrences of a character. A text without it is one piece. -/
def pieces (sep : Char) : Text → List Text
  | [] => [[]]
  | c :: t =>
    if c = sep then [] :: pieces sep t
    else match pieces sep t with
      | [] => [[c]]
      | p :: ps => (c :: p) :: ps

theorem pieces_ne_nil (sep : Char) (t : Text) : pieces sep t ≠ [] := by
  cases t with
  | nil => simp [pieces]
  | cons c t =>
    rw [pieces]
    split
    · simp
    · split <;> simp

/-- The longest run of characters of one kind at the start, if there is any, and what follows. -/
def run? (p : Char → Bool) (t : Text) : Option (Text × Text) :=
  match t.takeWhile p with
  | [] => none
  | ds => some (ds, t.dropWhile p)

theorem length_lt_of_run?_eq_some {p : Char → Bool} {t ds r : Text} (h : run? p t = some (ds, r)) :
    r.length < t.length := by
  unfold run? at h
  split at h
  · cases h
  · next ds' hne =>
    simp only [Option.some.injEq, Prod.mk.injEq] at h
    obtain ⟨-, rfl⟩ := h
    have hlen := congrArg List.length (List.takeWhile_append_dropWhile (p := p) (l := t))
    have hpos := List.length_pos_iff.mpr hne
    rw [List.length_append] at hlen
    omega

/-- Texts one after the other, with a separator between neighbours. -/
def join (sep : Text) (ts : List Text) : Text := List.intercalate sep ts

/-- Lines one after the other, with a line feed between neighbours. -/
def joinLines (ls : List Text) : Text := join ['\n'] ls

/-- A run of spaces. -/
def spaces (n : Nat) : Text := List.replicate n ' '

/-- Whether a text stays on one line. -/
def isOneLine (t : Text) : Bool := !t.contains '\n'

end Text

end AsmDispatch
