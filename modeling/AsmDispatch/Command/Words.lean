import AsmDispatch.Text.Quoted

/-! # Words of the command line

Options and the argument may stand in any order up to a word `--`. An option that takes a value
takes the rest of its word or else the next word, whatever that is; short options can share a
word. -/

namespace AsmDispatch.Command

/-- The options of the command. -/
inductive Switch where
  | output
  | target
  | romBase
  | stepName
  | verbose
  | version
  | help
deriving DecidableEq, Repr

namespace Switch

def all : List Switch := [.output, .target, .romBase, .stepName, .verbose, .version, .help]

def longName : Switch → Text
  | .output => "--output"
  | .target => "--target"
  | .romBase => "--rom-base"
  | .stepName => "--step-name"
  | .verbose => "--verbose"
  | .version => "--version"
  | .help => "--help"

def letter? : Switch → Option Char
  | .output => some 'o'
  | .target => some 't'
  | .verbose => some 'v'
  | _ => none

def takesValue : Switch → Bool
  | .output | .target | .romBase | .stepName => true
  | .verbose | .version | .help => false

def ofLongName? (t : Text) : Option Switch := all.find? (·.longName == t)

def ofLetter? (c : Char) : Option Switch := all.find? (·.letter? == some c)

/-- Both names in quotes. -/
def hint (s : Switch) : Text :=
  match s.letter? with
  | some c => "'-" ++ [c] ++ "' / '" ++ s.longName ++ "'"
  | none => "'" ++ s.longName ++ "'"

end Switch

/-- Why a command line cannot be followed. -/
inductive UsageError where
  | noSuchOption (name : Text)
  | missingValue (name : Text)
  | unexpectedValue (name : Text)
  | badValue (hint message : Text)
  | extraArguments (words : List Text)
  /-- A path with a null character in it. -/
  | nullInPath
deriving DecidableEq, Repr

namespace UsageError

def message : UsageError → Text
  | .noSuchOption name => "No such option " ++ Text.quoted name ++ "."
  | .missingValue name => "Option " ++ Text.quoted name ++ " requires an argument."
  | .unexpectedValue name => "Option " ++ Text.quoted name ++ " does not take a value."
  | .badValue hint message => "Invalid value for " ++ hint ++ ": " ++ message
  | .extraArguments [w] => "Got unexpected extra argument (" ++ w ++ ")"
  | .extraArguments ws => "Got unexpected extra arguments (" ++ Text.join " " ws ++ ")"
  | .nullInPath => "embedded null byte"

/-- Whether the report starts with the usage of the command. -/
def showsUsage : UsageError → Bool
  | .missingValue _ | .unexpectedValue _ => false
  | _ => true

end UsageError

/-- A command line taken apart. -/
structure Words where
  /-- The options in the order given, with their values. -/
  options : List (Switch × Text) := []
  arguments : List Text := []
deriving DecidableEq, Repr

namespace Words

/-- The options of one word, and one more that waits for its value with the name it was given. -/
abbrev WordOptions := List (Switch × Text) × Option (Switch × Text)

/-- Short options that share a word. The first that takes a value takes what is left of the word. -/
def ofLetters : Text → Except UsageError WordOptions
  | [] => .ok ([], none)
  | c :: t =>
    match Switch.ofLetter? c with
    | none => .error (.noSuchOption ['-', c])
    | some s =>
      if s.takesValue then
        if t = [] then .ok ([], some (s, ['-', c])) else .ok ([(s, t)], none)
      else (ofLetters t).map fun p => ((s, []) :: p.1, p.2)

/-- A long option, which may bring its value behind an equals sign, or short options. -/
def ofOptionWord (w : Text) : Except UsageError WordOptions :=
  let name := w.takeWhile (· ≠ '=')
  match Switch.ofLongName? name, w.dropWhile (· ≠ '=') with
  | some s, [] => if s.takesValue then .ok ([], some (s, name)) else .ok ([(s, [])], none)
  | some s, _ :: value =>
    if s.takesValue then .ok ([(s, value)], none) else .error (.unexpectedValue name)
  | none, _ =>
    match w with
    | '-' :: '-' :: _ => .error (.noSuchOption name)
    | w => ofLetters (w.drop 1)

def isOptionWord : Text → Bool
  | '-' :: _ :: _ => true
  | _ => false

def addOptions (os : List (Switch × Text)) (w : Words) : Words :=
  { w with options := os ++ w.options }

def addArgument (a : Text) (w : Words) : Words := { w with arguments := a :: w.arguments }

def parse : List Text → Except UsageError Words
  | [] => .ok {}
  | w :: ws =>
    if w = ['-', '-'] then .ok { arguments := ws }
    else if isOptionWord w then do
      match ← ofOptionWord w with
      | (os, none) => return (← parse ws).addOptions os
      | (os, some (s, name)) =>
        match ws with
        | [] => throw (.missingValue name)
        | value :: ws => return (← parse ws).addOptions (os ++ [(s, value)])
    else return (← parse ws).addArgument w

/-- Each option once, in the order in which they first appear, with its last value. -/
def settled (w : Words) : List (Switch × Text) :=
  (w.options.map (·.1)).eraseDups.filterMap fun s => w.options.reverse.find? (·.1 == s)

end Words

end AsmDispatch.Command
