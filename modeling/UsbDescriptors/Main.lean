import UsbDescriptors.Command.Run

/-!
# The program

Runs the command on the files of the system, and shows its outcome.
-/

namespace UsbDescriptors

/-- The fault of a file operation to which the system gives a number and a reason. -/
def FileError.ofNumber (number : UInt32) (reason : String) : FileError :=
  if number = 2 then .notFound
  else if number = 17 then .alreadyExists
  else if number = 20 then .notDirectory
  else if number = 21 then .isDirectory
  else if number = 36 then .nameTooLong
  else .other reason

/-- A fault of the system as a fault of a file operation. -/
def FileError.ofSystem (error : IO.Error) : FileError :=
  match error with
  | .noFileOrDirectory _ number _ => .ofNumber number (toString error)
  | .alreadyExists _ number _ => .ofNumber number (toString error)
  | .inappropriateType _ number _ => .ofNumber number (toString error)
  | .invalidArgument _ number _ => .ofNumber number (toString error)
  | _ => .other (toString error)

/-- The outcome of a file operation of the system. -/
def fileOutcome {α : Type} (operation : IO α) : IO (Except FileError α) := do
  match ← operation.toBaseIO with
  | .ok result => return .ok result
  | .error error => return .error (.ofSystem error)

instance : FileSystem IO where
  isFile path := do
    match ← fileOutcome (IO.FS.readBinFile path) with
    | .ok _ => return true
    | .error _ => return false
  readText path := do
    match ← fileOutcome (IO.FS.readBinFile path) with
    | .error error => return .error error
    | .ok content =>
        match String.fromUTF8? content with
        | some text => return .ok text
        | none => return .error .notUtf8
  createDirectories path := fileOutcome (IO.FS.createDirAll path)
  writeText path text := fileOutcome (IO.FS.writeFile path text)

end UsbDescriptors

open UsbDescriptors in
/-- Runs the command with the arguments of the program. -/
def main (arguments : List String) : IO UInt32 := do
  let outcome ← Command.run arguments
  IO.print outcome.output
  for event in outcome.events do
    IO.eprintln (event.level.name ++ " " ++ event.text)
  IO.eprint outcome.error
  return UInt32.ofNat outcome.status
