import Std.Time.DateTime.Timestamp
import Stencil.CommandLine

/-!
This module contains the program: it reads the settings file if there is one, and writes what the
run reports.
-/

open Stencil

def readSettings (path : String) : IO (Except String String) := do
  try
    let bytes ← IO.FS.readBinFile path
    match String.fromUTF8? bytes with
    | some text => return .ok text
    | none => return .error "stream did not contain valid UTF-8"
  catch
    | .noFileOrDirectory .. => return .error "No such file or directory (os error 2)"
    | .permissionDenied .. => return .error "Permission denied (os error 13)"
    | .inappropriateType .. => return .error "Is a directory (os error 21)"
    | e => return .error (toString e)

def currentTime : IO Int64 := do
  let now ← Std.Time.Timestamp.now
  return Int64.ofInt now.toMillisecondsSinceUnixEpoch.val

def main (args : List String) : IO UInt32 := do
  let now ← currentTime
  let path :=
    match Options.read args with
    | .ok o => o.config
    | .error _ => none
  let text ←
    match path with
    | some path => readSettings path
    | none => pure (.ok "")
  let report := CommandLine.run now (fun _ => text) args
  IO.print report.stdout
  IO.eprint report.stderr
  return report.code.toUInt32
