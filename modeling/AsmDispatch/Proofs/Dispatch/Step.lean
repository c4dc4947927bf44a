import AsmDispatch.Statement
import AsmDispatch.Text.Numeral

/-!
# What a step does

The meaning of statements, apart from any host.  The sources of statements, predicates and targets
are opaque: a `Machine` says what they do to a state, and each may read the slot at which it stands.

`Statement.stepAt` is one step of a program that is given by its statements.  A dispatch procedure
is right if it takes that step, however its host spells it.
-/

namespace AsmDispatch

/-- What the sources in a program mean, over states `σ`. -/
structure Machine (σ : Type) where
  run : Text → Int → σ → σ
  test : Text → Int → σ → Bool × σ
  value : Text → Int → σ → Int × σ

/-- What a procedure gives as the next slot. -/
inductive Target where
  | slot (n : Nat)
  | expr (source : Text)
deriving DecidableEq, Repr

namespace Target

def text : Target → Text
  | .slot n => Text.decimal n
  | .expr source => source

def eval {σ : Type} (m : Machine σ) (pc : Int) : Target → σ → Int × σ
  | .slot n, x => (n, x)
  | .expr source, x => m.value source pc x

end Target

namespace Statement

variable {σ : Type}

/-- Carry out a statement at a slot: the next slot, and the state there. -/
def step (m : Machine σ) (pc : Int) : Statement → σ → Int × σ
  | .plain source, x => (pc + 1, m.run source pc x)
  | .transfer target, x => m.value target pc x
  | .branch predicate target, x =>
    match m.test predicate pc x with
    | (true, y) => m.value target pc y
    | (false, y) => (pc + 1, y)

/-- One step of the program with these statements. A number that is no slot is given back. -/
def stepAt (m : Machine σ) (ss : List Statement) : Int → σ → Int × σ
  | .ofNat k, x =>
    match ss[k]? with
    | some s => s.step m k x
    | none => (k, x)
  | .negSucc k, x => (.negSucc k, x)

/-- One step of a program whose first statement has the given slot. -/
def stepFrom (m : Machine σ) (slot : Nat) : List Statement → Int → σ → Int × σ
  | [], pc, x => (pc, x)
  | s :: ss, pc, x => if pc = slot then s.step m pc x else stepFrom m (slot + 1) ss pc x

theorem stepFrom_of_lt (m : Machine σ) {slot : Nat} {pc : Int} (ss : List Statement) (x : σ)
    (hpc : pc < slot) : stepFrom m slot ss pc x = (pc, x) := by
  induction ss generalizing slot with
  | nil => rfl
  | cons s ss ih =>
    rw [stepFrom, if_neg (by omega)]
    exact ih (by omega)

theorem stepFrom_add (m : Machine σ) (slot k : Nat) (ss : List Statement) (x : σ) :
    stepFrom m slot ss (slot + k : Nat) x =
      match ss[k]? with
      | some s => s.step m (slot + k : Nat) x
      | none => ((slot + k : Nat), x) := by
  induction ss generalizing slot k with
  | nil => rfl
  | cons s ss ih =>
    rw [stepFrom]
    cases k with
    | zero => rw [if_pos (by simp), List.getElem?_cons_zero]
    | succ k =>
      have hassoc : slot + (k + 1) = slot + 1 + k := by omega
      rw [if_neg (by omega), hassoc, List.getElem?_cons_succ]
      exact ih (slot + 1) k

theorem stepFrom_zero (m : Machine σ) (ss : List Statement) (pc : Int) (x : σ) :
    stepFrom m 0 ss pc x = stepAt m ss pc x := by
  cases pc with
  | ofNat k =>
    have hk := stepFrom_add m 0 k ss x
    rw [Nat.zero_add] at hk
    exact hk
  | negSucc k => exact stepFrom_of_lt m ss x (by omega)

end Statement

end AsmDispatch
