import AsmDispatch.Text.Numeral

/-! # Log records

Each stage of the work logs under a name of its own. -/

namespace AsmDispatch

/-- The stages that log. -/
inductive Stage where
  | listing
  | regions
  | symbols
  | output
  | session
deriving DecidableEq, Repr

def Stage.logger : Stage → Text
  | .listing => "asm2host.translator.classifier"
  | .regions => "asm2host.translator.romdata"
  | .symbols => "asm2host.translator.resolver"
  | .output => "asm2host.translator.emitter"
  | .session => "asm2host.translator.translator"

/-- A message with its importance, which is a number, and the name that it was logged under. -/
structure LogRecord where
  level : Int
  logger : Text
  message : Text
deriving DecidableEq, Repr

namespace LogRecord

def debugLevel : Int := 10

def infoLevel : Int := 20

def warningLevel : Int := 30

def errorLevel : Int := 40

def levelName (level : Int) : Text :=
  if level = debugLevel then "DEBUG"
  else if level = infoLevel then "INFO"
  else if level = warningLevel then "WARNING"
  else if level = errorLevel then "ERROR"
  else "Level " ++ Text.decimal level

def line (r : LogRecord) : Text := levelName r.level ++ " " ++ r.logger ++ ": " ++ r.message

def debug (stage : Stage) (message : Text) : LogRecord := ⟨debugLevel, stage.logger, message⟩

def warning (stage : Stage) (message : Text) : LogRecord := ⟨warningLevel, stage.logger, message⟩

/-- How the names of all stages begin. -/
def stageStart : Text := "asm2host."

/-- Whether a record of this level and logger is shown. The warnings of the stages are not: each is
a diagnostic, and the command shows those itself. -/
def isShown (level : Int) (logger : Text) : Bool :=
  !(level == warningLevel && stageStart.isPrefixOf logger)

theorem isShown_warning (stage : Stage) (message : Text) :
    isShown (warning stage message).level (warning stage message).logger = false := by
  cases stage <;> rfl

end LogRecord

end AsmDispatch
