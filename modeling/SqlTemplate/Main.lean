import SqlTemplate.Command.Run

/-!
# The command line program

The host of the program is the machine it runs on.
-/

namespace SqlTemplate.Machine

/-- A path as seen from the working directory. -/
def located (path : String) := (· / path) <$> IO.currentDir

/-- The reason in an error of the machine. -/
def reason (e : IO.Error) : String := ((toString e).splitOn "\n").headD ""

/-- What an action gives, or the reason why it failed. -/
def attempt {α : Type} (action : IO α) : IO (Except String α) := do
  match ← action.toBaseIO with
  | .ok result => return .ok result
  | .error e => return .error (reason e)

/-- All the bytes of a stream. -/
partial def readAll (stream : IO.FS.Stream) (read : ByteArray) : IO ByteArray := do
  let chunk ← stream.read 65536
  if chunk.isEmpty then return read
  readAll stream (read ++ chunk)

/-- The host that acts on the machine. -/
def host : Host IO :=
  { isPresent := fun path => do
      if path.isEmpty then return false
      (← located path).pathExists
    isDirectory := fun path => do
      if path.isEmpty then return false
      (← located path).isDir
    fileNames := fun path => do
      let entries ← (← located path).readDir
      let files ← entries.toList.filterM fun entry => do
        match ← attempt entry.path.metadata with
        | .ok metadata => return metadata.type == .file
        | .error _ => return false
      return files.map (·.fileName)
    readFile := fun path => attempt do IO.FS.readBinFile (← located path)
    makeDirectories := fun path => attempt do IO.FS.createDirAll (← located path)
    writeFile := fun path text => attempt do IO.FS.writeFile (← located path) text
    environmentVariable := fun name => IO.getEnv name
    readInput := attempt do readAll (← IO.getStdin) .empty
    print := fun text => do
      let output ← IO.getStdout
      output.putStr text
      output.flush }

end SqlTemplate.Machine

open SqlTemplate in
/-- Runs the command that the arguments make. A failure is reported on standard error. -/
def main (args : List String) : IO UInt32 := do
  match ← (Command.runWords Machine.host args).run with
  | .ok _ => return 0
  | .error failure =>
    IO.eprintln failure.message
    return 1
