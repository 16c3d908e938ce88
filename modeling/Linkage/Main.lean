import Linkage.Program

/-!
The command line program. The files that a command may read are known before it runs: those its
words name, and for a manifest those the manifest names. They are read first, and the command then
works on what was read.
-/

namespace Linkage

def Request.paths : Request → List String
  | .run request => request.preloads.map Preload.path ++ [request.file]
  | .manifest request => [request.file]
  | .inspect request => request.preloads.map Preload.path ++ [request.file]

def Manifest.paths (manifest : Manifest) : List String :=
  (manifest.preloads.map Preload.path ++ manifest.main.toList).map manifest.resolvePath

/-- The number of a system error. Some calls report it negated. -/
def errorNumber (number : UInt32) : Int :=
  if number < 0x80000000 then number.toNat else (0 - number).toNat

def readErrorOf : IO.Error → ReadError
  | .noFileOrDirectory _ number _ | .permissionDenied _ number _ | .inappropriateType _ number _
  | .invalidArgument _ number _ | .resourceExhausted _ number _ | .noSuchThing _ number _ =>
      .system (errorNumber number)
  | .otherError number _ => .system (errorNumber number)
  | _ => .system 5

def readFile (path : String) : IO (String × Except ReadError FileContent) := do
  if path.toList.contains '\x00' then return (path, .error .nulInPath)
  try
    let data ← IO.FS.readBinFile path
    return (path, .ok (.bytes data))
  catch error => return (path, .error (readErrorOf error))

def filesRead (read : List (String × Except ReadError FileContent)) : FileSystem := fun path =>
  (read.lookup path).getD (.error .notFound)

def gather (request : Request) : IO FileSystem := do
  let first ← request.paths.mapM readFile
  match request with
  | .manifest named =>
      match Manifest.ofPath (filesRead first) named.file with
      | .ok manifest => do
          let second ← manifest.paths.mapM readFile
          return filesRead (first ++ second)
      | .error _ => return filesRead first
  | _ => return filesRead first

def usageLines : List String := [
  "Resolve WebAssembly imports by name and run the result.",
  "",
  "Usage: wasm-link [-v]... [-q] run [--preload NAME=PATH]... [--allow-shadowing]",
  "         [--trap-unknown-imports] [-i NAME] FILE [ARGS]...",
  "       wasm-link [-v]... [-q] manifest [-i NAME] MANIFEST [ARGS]...",
  "       wasm-link [-v]... [-q] inspect [--preload NAME=PATH]... FILE"]

def program (words : List String) : IO UInt32 := do
  let filter ← IO.getEnv "RUST_LOG"
  let files ← match Invocation.read words with
    | .ok invocation => gather invocation.request
    | .error _ => pure (filesRead [])
  let result := runProgram files filter words
  match result with
  | .usage .help => usageLines.forM fun line => IO.println line
  | .usage .version => IO.println ProgramResult.versionLine
  | .usage _ => usageLines.forM fun line => IO.eprintln line
  | .ran output diagnostics => do
      IO.print output
      diagnostics.texts.forM fun text => IO.eprintln text
  return UInt32.ofNat result.exitCode

end Linkage

def main (words : List String) : IO UInt32 :=
  Linkage.program words
