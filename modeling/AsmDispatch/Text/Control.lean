import AsmDispatch.Text.Basic

/-! # Control sequences

A terminal takes an escape character with a bracket for the start of a sequence: parameter
characters, then intermediate ones, then a final one. The three classes are ranges of ASCII without
a character in common, so a sequence has one reading. -/

namespace AsmDispatch.Text

/-- Digits and `:;<=>?`. -/
def isControlParameter (c : Char) : Bool := '0' ≤ c && c ≤ '?'

/-- Space and the marks up to the slash. -/
def isControlIntermediate (c : Char) : Bool := ' ' ≤ c && c ≤ '/'

/-- Letters and the marks among and behind them. -/
def isControlFinal (c : Char) : Bool := '@' ≤ c && c ≤ '~'

/-- What follows a control sequence, given the text behind its bracket. -/
def afterControl? (t : Text) : Option Text :=
  match (t.dropWhile isControlParameter).dropWhile isControlIntermediate with
  | c :: r => if isControlFinal c then some r else none
  | [] => none

theorem length_lt_of_afterControl?_eq_some {t r : Text} (h : afterControl? t = some r) :
    r.length < t.length := by
  unfold afterControl? at h
  split at h
  · next c r' heq =>
    split at h
    · cases h
      have hi := (List.dropWhile_sublist isControlIntermediate
        (l := t.dropWhile isControlParameter)).length_le
      have hp := (List.dropWhile_sublist isControlParameter (l := t)).length_le
      rw [heq, List.length_cons] at hi
      omega
    · cases h
  · cases h

/-- A text without its control sequences. What stands to the left and to the right of one is not
read together, and an escape that starts none is kept. -/
def plain (t : Text) : Text :=
  match t with
  | [] => []
  | '\x1b' :: '[' :: t =>
    match h : afterControl? t with
    | some r =>
      have := length_lt_of_afterControl?_eq_some h
      plain r
    | none => '\x1b' :: plain ('[' :: t)
  | c :: t => c :: plain t
termination_by t.length
decreasing_by all_goals simp only [List.length_cons]; omega

@[simp] theorem plain_nil : plain [] = [] := by rw [plain]

/-- Text without an escape is plain already. -/
theorem plain_eq_self {t : Text} (h : '\x1b' ∉ t) : plain t = t := by
  fun_induction plain t <;> simp_all

end AsmDispatch.Text
