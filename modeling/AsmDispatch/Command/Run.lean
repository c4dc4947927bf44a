import AsmDispatch.Command.Words
import AsmDispatch.Command.Work
import AsmDispatch.Text.Control

/-! # The command as it runs

The console is the toolkit that the program runs with. It follows the options in the order given,
then opens the source, then looks for what is too much. Texts get to a stream without the sequences
that would steer a terminal. -/

namespace AsmDispatch.Command

/-! ## Streams -/

def consoleStreams : Streams where
  print t := .ok (Text.plain t)
  say := Text.plain
  trace _ := ["<traceback>"]

/-- The report of a failure on the console. -/
def Failure.report (verbose : Bool) (activity : Text) (f : Failure) : List Text :=
  consoleStreams.report verbose activity f

/-! ## Answers of the console itself -/

def programName : Text := "asm2host"

def version : Text := "1.0.0"

def usage : List Text :=
  ["Usage: " ++ programName ++ " [OPTIONS] [INPUT_FILE]"]

def usageAdvice : List Text := ["Try '" ++ programName ++ " --help' for help.", []]

def usageOutcome (e : UsageError) : Outcome :=
  if e = .nullInPath then { status := .aborted }
  else
    let head := if e.showsUsage then usage ++ usageAdvice else []
    { status := .invalidArguments,
      stderr := unlines ((head ++ ["Error: " ++ e.message]).map consoleStreams.say) }

def versionOutcome : Outcome where
  status := .success
  stdout := unlines [programName ++ ", version " ++ version]

def description : List Text :=
  ["  Translate 6502 assembly source into a dispatch-based host program.",
   [],
   "  INPUT_FILE is the assembly source file; omit it or pass - to read stdin.",
   [],
   "  Output blocks, in order:",
   "      Labels, Definitions, Rom data addresses, Rom data, step(pc)",
   [],
   "  Examples:",
   "      asm2host game.asm                    # JavaScript on stdout",
   "      asm2host -t python game.asm -o rom.py",
   "      asm2host --rom-base '$C000' game.asm"]

def optionTable : List Text :=
  ["Options:",
   "  -o, --output FILE               Output file (default: stdout)",
   "  -t, --target [javascript|python]",
   "                                  Host language of the generated source.",
   "                                  Default: javascript (or $ASM2HOST_TARGET).",
   "  --rom-base TEXT                 Address of the first ROM data region ($8000,",
   "                                  0x8000 or decimal). Default: $8000.",
   "  --step-name TEXT                Name of the generated dispatch procedure.",
   "                                  Default: step.",
   "  -v, --verbose                   Verbose output",
   "  --version                       Show the version and exit.",
   "  --help                          Show this message and exit."]

def helpOutcome : Outcome where
  status := .success
  stdout := unlines (usage ++ [[]] ++ description ++ [[]] ++ optionTable)

/-- Options that end the run by themselves. -/
def final? (s : Switch) : Option Outcome :=
  match s with
  | .version => some versionOutcome
  | .help => some helpOutcome
  | _ => none

/-! ## Options and the source -/

/-- The host whose name has the same folded form. -/
def hostOfText? (t : Text) : Option Host := Host.all.find? (Text.fold ·.name == Text.fold t)

def badTarget (t : Text) : UsageError :=
  .badValue Switch.target.hint <|
    Text.quoted t ++ " is not one of " ++
      Text.join ", " (Host.all.map (Text.quoted ·.name)) ++ "."

section Console

variable {m : Type → Type} [Monad m] (fs : FileSystem m) (base : Text → Except Text Int)

/-- Take an option with its value. -/
def takeOption (o : Options) (s : Switch) (value : Text) : m (Except UsageError Options) := do
  match s with
  | .output =>
    if !Path.isPath value then return .error .nullInPath
    else if ← fs.isDirectory value then
      return .error (.badValue s.hint ("File " ++ Text.quoted value ++ " is a directory."))
    else return .ok { o with output := some value }
  | .target =>
    match hostOfText? value with
    | some h => return .ok { o with target := some h.name }
    | none => return .error (badTarget value)
  | .romBase =>
    match base value with
    | .ok n => return .ok { o with romBase := some n }
    | .error message => return .error (.badValue s.hint message)
  | .stepName => return .ok { o with stepName := some value }
  | .verbose => return .ok { o with verbose := true }
  | .version | .help => return .ok o

def takeOptions (o : Options) : List (Switch × Text) → m (Except UsageError Options)
  | [] => return .ok o
  | (s, value) :: rest => do
    match ← takeOption fs base o s value with
    | .ok o => takeOptions o rest
    | .error e => return .error e

/-- A source whose bytes arrive in chunks of equal size. -/
def Source.ofBytes (filename : Text) (content : Text.Bytes) : Source where
  filename
  chunks := Text.Utf8.chunks content.length content

/-- Open the source: standard input if no argument or a dash is given. -/
def openSource (arguments : List Text) : m (Except UsageError Source) := do
  let path := arguments.headD "-"
  if path = ['-'] then return .ok (.ofBytes "<stdin>" (← fs.standardInput))
  else if !Path.isPath path then return .error .nullInPath
  else match ← fs.read path with
    | .ok content => return .ok (.ofBytes path content)
    | .error kind =>
      return .error (.badValue "'[INPUT_FILE]'" ("'" ++ path ++ "': " ++ kind.text))

/-- Options in the order given, then the source, then what is too much. -/
def followWords (words : Words) : m (Except UsageError Call) := do
  match ← takeOptions fs base {} words.settled with
  | .error e => return .error e
  | .ok options =>
    match ← openSource fs words.arguments with
    | .error e => return .error e
    | .ok source =>
      match words.arguments.drop 1 with
      | [] => return .ok { options, source }
      | extra => return .error (.extraArguments extra)

def console : Toolkit m where
  toStreams := consoleStreams
  start base args := do
    match Words.parse args with
    | .error e => return .error (usageOutcome e)
    | .ok words =>
      match words.settled.findSome? (final? ·.1) with
      | some outcome => return .error outcome
      | none => return (← followWords fs base words).mapError usageOutcome

end Console

def run {m : Type → Type} [Monad m] (fs : FileSystem m) (inv : Invocation) : m Outcome :=
  (console fs).run fs.write inv

end AsmDispatch.Command
