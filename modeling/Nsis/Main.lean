import Nsis.Report.Dump

/-!
# Command line

Prints the report on the installer whose path is the first argument.
-/

open Nsis

/-- The file at a path. -/
def readInstaller (args : List String) : IO File := do
  match args with
  | [] => return { content := [] }
  | path :: _ => return { content := (← IO.FS.readBinFile path).toList }

/-- Print the report. A fault is told on the channel for errors. -/
def main (args : List String) : IO UInt32 := do
  let out := Report.command args (← readInstaller args)
  IO.print out.text
  IO.eprint out.errors
  match out.fault with
  | some e =>
    IO.eprintln e.message
    return 1
  | none => return out.exitCode.toUInt32
