import AccessorSchema.Command.Run

/-!
# The program

The file system of the machine as a `FileSystem`, and the entry point, which writes the results of
`runProgram` where they belong.
-/

namespace AccessorSchema

/-- The `FileFault` behind an error of the operating system. -/
def FileFault.ofError : IO.Error → FileFault
  | .noFileOrDirectory _ _ _ => .notFound
  | .inappropriateType _ code _ => if code = 21 then .isDirectory else .notDirectory
  | e => .other (toString e)

/-- The text of the file `p` of the machine. -/
def readMachineFile (p : Path) : IO (Except FileFault String) := do
  try
    match String.fromUTF8? (← IO.FS.readBinFile p) with
    | none => return .error .notText
    | some text => return .ok text
  catch e => return .error (.ofError e)

/-- Whether the machine has a file or directory `p`. -/
def hasMachineFile (p : Path) : IO Bool := do
  match ← readMachineFile p with
  | .error .notFound | .error .notDirectory => return false
  | _ => return true

/-- Writes `text` to the file `p` of the machine. -/
def writeMachineFile (p : Path) (text : String) : IO (Except FileFault Unit) := do
  try
    IO.FS.writeFile p text
    return .ok ()
  catch e => return .error (.ofError e)

/-- The file system of the machine, in `IO`. -/
instance : FileSystem IO where
  read := readMachineFile
  contains := hasMachineFile
  write := writeMachineFile

end AccessorSchema

open AccessorSchema in
/-- Runs the program on `arguments`; colours are used on a terminal unless the user has switched
them off. -/
def main (arguments : List String) : IO UInt32 := do
  let output ← IO.getStdout
  let colored := (← output.isTty) && (← IO.getEnv "NO_COLOR").isNone
  let directory := toString (← IO.currentDir)
  let result : RunResult ← runProgram colored directory arguments
  output.putStr result.output
  output.flush
  (← IO.getStderr).putStr result.errors
  return result.status.toUInt32
