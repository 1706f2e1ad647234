import GenWalk.CommandLine.Run
import GenWalk.Machine.Bench

/-!
The program. The tree below the working directory is taken in as a machine, the command line is run
on it, and what has changed is put back. Generators run on that machine, with the programs it has.
-/

namespace GenWalk.Outer

def textOf (bytes : ByteArray) : Text := Utf8.decode bytes.toList

def environment : IO Environment := do
  let entries := Text.splitOn (.char '\x00') (textOf (← IO.FS.readBinFile "/proc/self/environ"))
  return .ofList (entries.filterMap fun entry =>
    let (name, rest) := entry.spanUntil (· == .char '=')
    if rest.isEmpty then none else some (name, rest.drop 1))

def nameOf (location : Location) : String := ((Lookup.pathTo location).toText.toString?).getD ""

def takeFile (location : Location) (disk : Disk) : IO Disk := do
  match ← (IO.FS.readBinFile (nameOf location)).toBaseIO with
  | .ok bytes =>
    return disk.insert location (.file Entry.usualDirectoryMode (.bytes bytes.toList))
  | .error _ => return disk

partial def takeIn (location : Location) (disk : Disk) (entry : IO.FS.DirEntry) : IO Disk := do
  let place := location ++ [Text.ofString entry.fileName]
  match ← entry.path.metadata.toBaseIO with
  | .ok data => match data.type with
    | .dir =>
      let here := disk.insert place (.directory Entry.usualDirectoryMode)
      (← entry.path.readDir).foldlM (takeIn place) here
    | .file => takeFile place disk
    | _ => return disk
  | .error _ => return disk

def takeConfigurations (home : Location) (disk : Disk) : IO Disk :=
  (List.range home.length).foldlM (fun disk depth =>
    takeFile (home.take depth ++ [Config.fileName]) disk) disk

def putBack (before after : Disk) (home : Location) : IO Unit := do
  for (location, entry) in after.entries do
    if home.isPrefixOf location && before.entry? location ≠ some entry then
      let name := nameOf location
      match entry with
      | .directory _ => IO.FS.createDirAll name
      | .file _ (.bytes value) => IO.FS.writeBinFile name value.toByteArray
      | _ => pure ()
  for (location, entry) in before.entries do
    if home.isPrefixOf location && (after.entry? location).isNone && !entry.isDirectory then
      IO.FS.removeFile (nameOf location)

def bytesOf (text : Text) : ByteArray := (Utf8.encode text).toByteArray

def run (arguments : List String) : IO UInt32 := do
  let directory ← IO.currentDir
  let home := (Path.ofText (Text.ofString directory.toString)).parts
  let empty := Machine.furnishedDisk.ensureDirectory home
  let disk ← (← directory.readDir).foldlM (takeIn home) (← takeConfigurations home empty)
  let bench : Bench := { machine := { disk, directory := home, environment := ← environment } }
  let place : CommandLine.Workplace Bench := {
    host := Bench.host
    setupLog := fun request => (Machine.setupLog request).through Bench.machine Bench.withMachine
    processes := Bench.processes
    mock := bench.noting }
  let output ← IO.getStdout
  let (outcome, after) := CommandLine.run place (← output.isTty)
    (arguments.map Text.ofString) bench
  output.write (bytesOf (Utf8.decode after.machine.spoken ++ outcome.output))
  let crash := (outcome.crash?.map fun crash => crash.message ++ [.char '\n']).getD []
  (← IO.getStderr).write (bytesOf (after.machine.console ++ outcome.complaint ++ crash))
  putBack disk after.machine.disk home
  return UInt32.ofNat outcome.exitCode

end GenWalk.Outer

def main (arguments : List String) : IO UInt32 := GenWalk.Outer.run arguments
