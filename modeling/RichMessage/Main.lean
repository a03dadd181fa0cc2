import RichMessage.Command.Run
import Std.Time.DateTime

set_option autoImplicit false

namespace RichMessage.Command

/-- The number that the system gives an error. Some calls give it with the sign turned around. -/
def errorNumber? : IO.Error → Option UInt32
  | .noFileOrDirectory _ code _ | .alreadyExists _ code _ | .inappropriateType _ code _
  | .invalidArgument _ code _ => some (min code (0 - code))
  | _ => none

/-- The failure behind an error of the system. -/
def fileError (reason : IO.Error) : FileError :=
  match errorNumber? reason with
  | some 2 => .notFound
  | some 17 => .alreadyExists
  | some 20 => .notDirectory
  | some 21 => .isDirectory
  | some 36 => .nameTooLong
  | _ => .other (toString reason)

/-- Does something with files and keeps its failure. -/
def attempt {α : Type} (action : IO α) : IO (Except FileError α) := do
  try
    return .ok (← action)
  catch reason =>
    return .error (fileError reason)

def readDisk (path : String) : IO (Except FileError String) := do
  return (← attempt (IO.FS.readBinFile path)).bind FileTree.decode

/-- What the configuration file of a folder holds, if there is one. -/
def readConfig (folder : String) : IO (Option (Except FileError String)) := do
  match ← readDisk (resolve folder Config.fileName) with
  | .error .notFound => return none
  | read => return some read

/-- Makes a folder of the disk that may be there already. -/
def ensureFolderOnDisk (path : String) : IO (Except FileError Unit) := do
  match ← attempt (IO.FS.createDir path) with
  | .error .alreadyExists => attempt (IO.FS.createDirAll path)
  | made => return made

/-- Makes a folder of the disk and those above it. The parts of its path are given from the last to
the first. -/
def makeFoldersOnDisk : List String → IO (Except FileError Unit)
  | [] => return .ok ()
  | part :: outer => do
    if FileTree.isHere part then makeFoldersOnDisk outer
    else
      let path := "/".intercalate (part :: outer).reverse
      match ← ensureFolderOnDisk path with
      | .error .notFound =>
        match ← makeFoldersOnDisk outer with
        | .ok _ => ensureFolderOnDisk path
        | failed => return failed
      | done => return done

def writeDisk (path text : String) : IO (Except CommandError Unit) := do
  match ← makeFoldersOnDisk (FileTree.foldersOf path) with
  | .error reason => return .error (.noFolder reason)
  | .ok _ => return (← attempt (IO.FS.writeFile path text)).mapError (.cannotWrite path)

def systemClock : IO ClockSource := do
  let now ← Std.Time.Timestamp.now
  let bytes ← IO.getRandomBytes 4
  let process := bytes.toList.foldl (fun word byte => word * 256 + byte.toUInt32) 0
  return { readings := fun _ => now.toNanosecondsSinceUnixEpoch.val, process }

def jsonDetail : String := "not the expected JSON value"

/-- Tells a failure and gives the exit code for it. -/
def fail (reason : CommandError) : IO UInt32 := do
  IO.eprint (failureText jsonDetail reason)
  return 1

/-- Does what a request asks for on the files of the disk. -/
def runOnDisk (request : Request) : IO UInt32 := do
  let folder := (← IO.currentDir).toString
  let settings ← readConfig folder
  let input ← readDisk (resolve folder request.input)
  match prepare folder (← systemClock) request settings input with
  | .error reason => fail reason
  | .ok delivery =>
    IO.eprint (lines delivery.notices)
    match delivery.target with
    | none =>
      IO.print (lines [delivery.text])
      return 0
    | some path =>
      match ← writeDisk path delivery.text with
      | .error reason => fail reason
      | .ok _ =>
        IO.eprint (lines [wroteNotice path])
        return 0

def usage : String :=
  lines ["usage: flexcraft decompile INPUT [--out FILE] [--seed SEED]",
    "       flexcraft compile INPUT [--out FILE]",
    "       flexcraft roundtrip INPUT [--out FILE] [--panels]",
    "       flexcraft get INPUT PATH",
    "       flexcraft set INPUT PATH VALUE [--out FILE | --in-place]",
    "       flexcraft remove INPUT PATH [--out FILE | --in-place]"]

end RichMessage.Command

open RichMessage.Command

/-- Runs the command that the words ask for. -/
def main (words : List String) : IO UInt32 := do
  match Request.ofWords? words with
  | some request => runOnDisk request
  | none =>
    IO.eprint usage
    return 2
