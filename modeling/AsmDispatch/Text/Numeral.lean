import AsmDispatch.Text.Blank
import AsmDispatch.Text.Digit

/-! # Numerals

Integers are written in decimal, and addresses in hexadecimal with the sign behind the `0x`. Reading
is wider: it takes digits of any script, single underscores between digits and, in base 16, a mark
of its own behind the sign. -/

namespace AsmDispatch.Text

/-- A decimal numeral has at most this many digits, leading zeros counted. -/
def maxDecimalDigits : Nat := 4300

/-- An integer in a base, with the sign in front. -/
def signed (base : Nat) : Int → Text
  | .ofNat n => Nat.toDigits base n
  | .negSucc n => '-' :: Nat.toDigits base (n + 1)

def decimal (n : Int) : Text := signed 10 n

/-- An address as the generated source shows it. -/
def hex (n : Int) : Text := "0x" ++ signed 16 n

/-- The last `width` hexadecimal digits of a number. -/
def hexDigits : Nat → Nat → Text
  | 0, _ => []
  | width + 1, n => hexDigits width (n / 16) ++ [Nat.digitChar (n % 16)]

/-- The value of a digit, which may be a letter from `a` to `f` of either case. -/
def digitIn? (base : Nat) (c : Char) : Option Nat :=
  (if 'a' ≤ c ∧ c ≤ 'f' then some (c.toNat - 'a'.toNat + 10)
    else if 'A' ≤ c ∧ c ≤ 'F' then some (c.toNat - 'A'.toNat + 10)
    else digitValue? c).filter (· < base)

/-- The digits of a numeral; neighbours may have one underscore between them. -/
def digits? (base : Nat) : Text → Option (List Nat)
  | [] => none
  | [c] => (digitIn? base c).map ([·])
  | c :: '_' :: t => do
    let d ← digitIn? base c
    let ds ← digits? base t
    return d :: ds
  | c :: t => do
    let d ← digitIn? base c
    let ds ← digits? base t
    return d :: ds

def ofDigits (base : Nat) (ds : List Nat) : Nat := ds.foldl (fun n d => n * base + d) 0

def magnitude? (base : Nat) (t : Text) : Option Nat := do
  let ds ← digits? base t
  if base = 10 ∧ maxDecimalDigits < ds.length then none else return ofDigits base ds

/-- In base 16 a zero and an `x` may stand in front of the digits, with one underscore behind. -/
def dropBaseMark (base : Nat) (t : Text) : Text :=
  match t with
  | z :: x :: r =>
    if base = 16 ∧ digitValue? z = some 0 ∧ (x = 'x' ∨ x = 'X') then
      match r with
      | '_' :: r => r
      | r => r
    else t
  | t => t

/-- Blanks that may stand around a numeral: the four separator controls are not among them. -/
def padsNumeral (c : Char) : Bool := isBlank c && !(0x1c ≤ c.toNat && c.toNat ≤ 0x1f)

def unpad (t : Text) : Text :=
  ((t.dropWhile padsNumeral).reverse.dropWhile padsNumeral).reverse

def integer? (base : Nat) (t : Text) : Option Int :=
  match unpad t with
  | '+' :: r => (magnitude? base (dropBaseMark base r)).map Int.ofNat
  | '-' :: r => (magnitude? base (dropBaseMark base r)).map (-Int.ofNat ·)
  | r => (magnitude? base (dropBaseMark base r)).map Int.ofNat

end AsmDispatch.Text
