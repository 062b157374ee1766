import Chip8.CommandLine.Report
import Chip8.Png

/-!
# The program

Looks up the files that the arguments name, prints the report of the run, writes the picture if
there is one, and exits with the code of the report.
-/

namespace Chip8.Program

/-- What a path leads to. -/
def lookUp (path : String) : IO Entry := do
  if path.isEmpty then return .missing
  let place := (← IO.currentDir) / path
  try
    let metadata ← place.metadata
    if metadata.type == .dir then return .directory
    return .file (← IO.FS.readBinFile place).toList
  catch
    | .inappropriateType .. => return .blocked
    | .invalidArgument .. => return .tooLong
    | _ => return .missing

/-- Writes a picture, and says what went wrong otherwise. -/
def writePicture (path : String) (raster : Raster) : IO (Option Trouble) := do
  try
    IO.FS.writeBinFile path (Png.encode raster)
    return none
  catch error => return some (.unforeseen (toString error))

end Chip8.Program

open Chip8 in
/-- Runs the program with the arguments of the command line. -/
def main (arguments : List String) : IO UInt32 := do
  let entries ← (Report.paths arguments).mapM fun path => return (path, ← Program.lookUp path)
  let files (path : String) : Entry := (entries.lookup path).getD .missing
  let seed ← IO.rand 0 0xFFFFFFFF
  let report := Report.ofArguments arguments files seed
  IO.print report.out
  IO.eprint report.err
  match report.picture with
  | none => return UInt32.ofNat report.exitCode
  | some (path, raster) =>
    match ← Program.writePicture path raster with
    | none => return UInt32.ofNat report.exitCode
    | some trouble =>
      IO.eprint (trouble.report false)
      return UInt32.ofNat trouble.exitCode
