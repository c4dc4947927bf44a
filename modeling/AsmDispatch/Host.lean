import AsmDispatch.Text.Basic

/-! # Host languages -/

namespace AsmDispatch

/-- The language of the generated source. -/
inductive Host where
  | javascript
  | python
deriving DecidableEq, Repr

namespace Host

def all : List Host := [.javascript, .python]

def name : Host → Text
  | .javascript => "javascript"
  | .python => "python"

def ofName? (t : Text) : Option Host := all.find? (·.name == t)

@[simp] theorem ofName?_name (h : Host) : ofName? h.name = some h := by cases h <;> rfl

/-- The mnemonic whose operand is source of this host. -/
def escape : Host → Text
  | .javascript => "CALLJS"
  | .python => "CALLPY"

def indent : Host → Nat → Text
  | .javascript, level => Text.spaces (2 * level)
  | .python, level => Text.spaces (4 * level)

def commentMark : Host → Text
  | .javascript => "//"
  | .python => "#"

def comment (h : Host) : Text → Text
  | [] => h.commentMark
  | t => h.commentMark ++ " " ++ t

/-- Source with a comment behind it; empty comments are left out. -/
def withComment (h : Host) (source : Text) : Option Text → Text
  | none | some [] => source
  | some c => source ++ "  " ++ h.comment c

/-- The declaration of a constant. -/
def constant (h : Host) (name value : Text) : Text :=
  match h with
  | .javascript => "const " ++ name ++ " = " ++ value
  | .python => name ++ " = " ++ value

end Host

end AsmDispatch
