import AsmDispatch.Command.Run

/-! # The program

Connects the command to the system: arguments, environment, streams and files. -/

namespace AsmDispatch.Main

/-- Read a stream to its end. -/
partial def readAll (s : IO.FS.Stream) (before : ByteArray) : IO ByteArray := do
  let chunk ← s.read 65536
  if chunk.isEmpty then return before else readAll s (before ++ chunk)

/-- The kind of an error of the system. -/
def kindOf : IO.Error → FileError.Kind
  | .noFileOrDirectory .. => .notFound
  | .permissionDenied .. => .permissionDenied
  | .inappropriateType _ code _ => if code = 21 then .isDirectory else .notDirectory
  | .invalidArgument _ code _ => if code = 36 then .nameTooLong else .inputOutput
  | _ => .inputOutput

def attempt {α : Type} (act : IO α) : IO (Except FileError.Kind α) := do
  match ← act.toBaseIO with
  | .ok a => return .ok a
  | .error e => return .error (kindOf e)

/-- Whether the first read of a file fails because it is a directory. -/
def isDirectory (path : String) : IO Bool := do
  match ← attempt (do (← IO.FS.Handle.mk path .read).read 1) with
  | .error .isDirectory => return true
  | _ => return false

def fileSystem : FileSystem IO where
  standardInput := return (← readAll (← IO.getStdin) .empty).toList
  read path := attempt do return (← IO.FS.readBinFile (String.ofList path)).toList
  isDirectory path := isDirectory (String.ofList path)
  write path content := attempt (IO.FS.writeBinFile (String.ofList path) ⟨content.toArray⟩)

def settingOf (name : String) : IO (Option Text) := return (← IO.getEnv name).map (·.toList)

def environment : IO Environment :=
  return {
    target := ← settingOf "ASM2HOST_TARGET"
    romBase := ← settingOf "ASM2HOST_ROM_BASE"
    stepName := ← settingOf "ASM2HOST_STEP_NAME" }

end AsmDispatch.Main

open AsmDispatch in
def main (args : List String) : IO UInt32 := do
  let inv : Command.Invocation := { args := args.map (·.toList), env := ← Main.environment }
  let outcome ← Command.run Main.fileSystem inv
  (← IO.getStderr).putStr (String.ofList outcome.stderr)
  (← IO.getStdout).putStr (String.ofList outcome.stdout)
  return outcome.status.code.toUInt32
