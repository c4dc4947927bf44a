import AsmDispatch.Address
import AsmDispatch.Error
import AsmDispatch.Host
import AsmDispatch.Text.Case
import AsmDispatch.Text.Identifier

/-! # Configuration -/

namespace AsmDispatch

/-- The settings of a run. They may hold anything; `validate` tells whether they can be used. -/
structure Config where
  /-- The name of the host language. -/
  target : Text := "javascript"
  /-- The address of the first data region. -/
  romBase : Int := 0x8000
  /-- The name of the dispatch procedure. -/
  stepName : Text := "step"
  /-- The name of the data table. -/
  tableName : Text := "ROM_DATA"
deriving DecidableEq, Repr

/-- A value for one of the settings. -/
inductive Setting where
  | target (name : Text)
  | romBase (address : Int)
  | stepName (name : Text)
  | tableName (name : Text)
deriving DecidableEq, Repr

/-- The environment variables that hold settings. -/
structure Environment where
  target : Option Text := none
  romBase : Option Text := none
  stepName : Option Text := none
deriving DecidableEq, Repr

namespace Config

def set (c : Config) : Setting → Config
  | .target name => { c with target := name }
  | .romBase address => { c with romBase := address }
  | .stepName name => { c with stepName := name }
  | .tableName name => { c with tableName := name }

/-- The settings of the environment. A value that cannot be read is ignored. -/
def ofEnvironment (env : Environment) : Config :=
  let default : Config := {}
  let target := (env.target.map Text.lower).filter fun t => (Host.ofName? t).isSome
  let romBase := env.romBase.bind Address.ofText?
  let stepName := env.stepName.filter Text.isIdentifier
  { target := target.getD default.target
    romBase := romBase.getD default.romBase
    stepName := stepName.getD default.stepName }

/-- Why a configuration cannot be used. -/
inductive Defect where
  | unknownTarget (name : Text)
  | negativeBase (address : Int)
  | badName (name : Text)
deriving DecidableEq, Repr

def Defect.cause : Defect → Cause
  | .unknownTarget name => .configuration ("unknown host target '" ++ name ++ "'")
  | .negativeBase address =>
    .configuration ("ROM base must not be negative (" ++ Text.decimal address ++ ")")
  | .badName name => .configuration ("'" ++ name ++ "' is not a valid identifier")

def Defect.hint : Defect → Option Text
  | .unknownTarget _ => some ("valid targets: " ++ Text.join ", " (Host.all.map Host.name))
  | _ => none

def Defect.error (d : Defect) : Error :=
  match d with
  | .negativeBase address =>
    if Text.maxDecimalDigits < (Nat.toDigits 10 address.natAbs).length then .numeralTooLong
    else .fault { cause := d.cause, hint := d.hint }
  | _ => .fault { cause := d.cause, hint := d.hint }

/-- The first defect: of the target, of the base, of the two names. -/
def defect? (c : Config) : Option Defect :=
  if (Host.ofName? c.target).isNone then some (.unknownTarget c.target)
  else if c.romBase < 0 then some (.negativeBase c.romBase)
  else ([c.stepName, c.tableName].find? (!Text.isIdentifier ·)).map .badName

def validate (c : Config) : Except Error Unit :=
  match c.defect? with
  | some d => .error d.error
  | none => .ok ()

theorem validate_eq_ok_iff_defect? {c : Config} : c.validate = .ok () ↔ c.defect? = none := by
  unfold validate
  cases c.defect? with
  | none => simp
  | some d => simp

/-- A configuration can be used exactly if there is nothing wrong with any of its settings. -/
theorem validate_eq_ok_iff {c : Config} :
    c.validate = .ok () ↔ (Host.ofName? c.target).isSome = true ∧ 0 ≤ c.romBase ∧
      Text.isIdentifier c.stepName = true ∧ Text.isIdentifier c.tableName = true := by
  rw [validate_eq_ok_iff_defect?, defect?, ← Option.not_isNone]
  split
  · next hnone => simp [hnone]
  · next hsome =>
    split
    · next hneg => simp [Int.not_le.mpr hneg]
    · next hbase => simp [hsome, Int.not_lt.mp hbase]

theorem validate_default : ({} : Config).validate = .ok () := rfl

/-- A configuration with a target, in any case, and a base put in place of its own. -/
def override (c : Config) (target : Option Text) (romBase : Option Int) : Config :=
  { c with
    target := (target.map Text.lower).getD c.target
    romBase := romBase.getD c.romBase }

end Config

end AsmDispatch
