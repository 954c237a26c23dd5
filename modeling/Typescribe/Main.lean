import Typescribe.CommandLine
import Typescribe.FileTree

/-! The program. -/
namespace Typescribe

/-- A step that fails answers nothing. -/
def succeeded? {α : Type} (x : IO α) : IO (Option α) := do
  try
    return some (← x)
  catch _ => return none

/-- The files of the machine, from the working directory on. -/
def machineFiles : FileSystem IO where
  readText path := succeeded? (IO.FS.readFile path)
  list path := succeeded? do
    let entries ← ((← IO.currentDir) / path).readDir
    return entries.toList.map fun entry => .text entry.fileName
  createDirectories path := do
    if path.isEmpty then return true
    let start := if path.toList.head? = some '/' then "/" else "./"
    let made ← succeeded?
      (IO.FS.createDirAll (start ++ "/".intercalate (FileTree.partsToMake path)))
    return made.isSome && (← ((← IO.currentDir) / path).isDir)
  writeText path text := do
    return (← succeeded? (IO.FS.writeFile path text)).isSome

def usage : String :=
  "Usage: typescribe --model FILE --out DIRECTORY [OPTIONS]\n\n" ++
    "Writes TypeScript interfaces for the types of a model.\n\n" ++
    "  -m, --model FILE          type model in JSON\n" ++
    "  -o, --out DIRECTORY       where the interfaces go\n" ++
    "  -d, --docs FILE           documentation in XML; later files win\n" ++
    "  -t, --templates DIRECTORY templates over the standard ones\n" ++
    "  -c, --config FILE         settings in YAML\n" ++
    "      --types NAME          a type to declare; all if none is named\n" ++
    "      --no-docs             no documentation comments\n" ++
    "      --camel-case          property names in camel case\n" ++
    "      --allow-unresolved    any in place of types that are not resolved\n" ++
    "  -v, --verbose             says which files have been written\n" ++
    "  -h, --help\n" ++
    "  -V, --version\n"

/-- Says how the run ended. -/
def announce : CommandLine.Outcome → IO Unit
  | .done options fragments => do
    if options.verbose then
      for f in fragments.list do
        IO.eprintln (f.id ++ ": " ++ Output.fileName f.id)
    IO.eprintln
      ("wrote " ++ toString fragments.list.length ++ " fragments to " ++ options.directory)
  | .help => IO.print usage
  | .version => IO.println "typescribe 0.1.0"
  | .misused fault => IO.eprintln ("error: " ++ fault.message ++ "\n\n" ++ usage)
  | .failed failure =>
    IO.eprintln ("error: " ++ failure.stage.text ++ ": " ++ failure.error.message)

end Typescribe

def main (arguments : List String) : IO UInt32 := do
  let outcome ← Typescribe.CommandLine.run Typescribe.machineFiles arguments
  Typescribe.announce outcome
  return outcome.exitCode.toUInt32
