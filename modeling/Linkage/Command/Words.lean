import Linkage.Command.Request

/-!
Reading the words of a command line. Words are taken from left to right and the first fault is
reported. A value that follows its option as a word of its own is only looked at when the next
option or positional word begins or the words end; until then it is pending, and an unknown option
that comes next is reported before it. After the word of two dashes everything is positional.
-/

namespace Linkage

inductive Command where
  | run
  | manifest
  | inspect
  deriving DecidableEq, Repr

inductive Opt where
  | preload
  | allowShadowing
  | trapUnknownImports
  | invoke
  | verbose
  | quiet
  | help
  | version
  deriving DecidableEq, Repr

inductive UsageFault where
  | help
  | version
  | unknownArgument
  | invalidValue
  | tooManyValues
  | argumentConflict
  | missingArgument
  | badValue (reason : String)
  | missingSubcommand
  | unknownSubcommand
  deriving DecidableEq, Repr

namespace Opt

def long : Opt → String
  | .preload => "preload"
  | .allowShadowing => "allow-shadowing"
  | .trapUnknownImports => "trap-unknown-imports"
  | .invoke => "invoke"
  | .verbose => "verbose"
  | .quiet => "quiet"
  | .help => "help"
  | .version => "version"

def short? : Opt → Option Char
  | .invoke => some 'i'
  | .verbose => some 'v'
  | .quiet => some 'q'
  | .help => some 'h'
  | .version => some 'V'
  | _ => none

def takesValue : Opt → Bool
  | .preload | .invoke => true
  | _ => false

end Opt

def Command.options : Command → List Opt
  | .run => [.preload, .allowShadowing, .trapUnknownImports, .invoke, .help]
  | .manifest => [.invoke, .help]
  | .inspect => [.preload, .help]

def Command.takesArgs : Command → Bool
  | .inspect => false
  | _ => true

structure Given where
  preloads : List Preload := []
  allowShadowing : Bool := false
  trapUnknownImports : Bool := false
  invoke : Option String := none
  verbose : Nat := 0
  quiet : Bool := false
  file : Option String := none
  args : List String := []
  deriving DecidableEq, Repr

/-- An option or positional whose words are not settled yet. -/
inductive Pending where
  | option (opt : Opt) (value : Option String)
  | file (value : String)
  | args (values : List String)
  deriving DecidableEq, Repr

structure Reading where
  given : Given := {}
  pending : Option Pending := none
  deriving DecidableEq, Repr

namespace Given

def take (given : Given) : Opt → Option String → Except UsageFault Given
  | .preload, some value =>
      match Preload.read? value.toList with
      | some preload => .ok { given with preloads := given.preloads ++ [preload] }
      | none => .error (.badValue (Preload.refusal value))
  | .invoke, some value =>
      if given.invoke.isSome then .error .argumentConflict
      else .ok { given with invoke := some value }
  | .preload, none | .invoke, none => .error .invalidValue
  | .allowShadowing, _ =>
      if given.allowShadowing then .error .argumentConflict
      else .ok { given with allowShadowing := true }
  | .trapUnknownImports, _ =>
      if given.trapUnknownImports then .error .argumentConflict
      else .ok { given with trapUnknownImports := true }
  | .quiet, _ =>
      if given.quiet then .error .argumentConflict else .ok { given with quiet := true }
  | .verbose, _ => .ok { given with verbose := given.verbose + 1 }
  | .help, _ => .error .help
  | .version, _ => .error .version

def settle (given : Given) : Pending → Except UsageFault Given
  | .option opt value => given.take opt value
  | .file value =>
      if value = "" then .error .invalidValue else .ok { given with file := some value }
  | .args values => .ok { given with args := given.args ++ values }

end Given

namespace Reading

def settle (reading : Reading) : Except UsageFault Reading :=
  match reading.pending with
  | none => .ok reading
  | some pending => do
      let given ← reading.given.settle pending
      pure ⟨given, none⟩

def take (reading : Reading) (opt : Opt) (value : Option String) : Except UsageFault Reading := do
  let settled ← reading.settle
  let given ← settled.given.take opt value
  pure { settled with given := given }

def await (reading : Reading) (opt : Opt) : Except UsageFault Reading := do
  let settled ← reading.settle
  pure { settled with pending := some (.option opt none) }

def awaiting? (reading : Reading) : Option Opt :=
  match reading.pending with
  | some (.option opt none) => if opt.takesValue then some opt else none
  | _ => none

def long (options : List Opt) (reading : Reading) (word : List Char) :
    Except UsageFault Reading :=
  let name := String.ofList (word.takeWhile (· ≠ '='))
  let value := match word.dropWhile (· ≠ '=') with
    | _ :: rest => some (String.ofList rest)
    | [] => none
  match options.find? (·.long = name) with
  | none => .error .unknownArgument
  | some opt =>
      if opt.takesValue then
        match value with
        | some value => reading.take opt (some value)
        | none => reading.await opt
      else if value.isSome then .error .tooManyValues
      else reading.take opt none

/-- Options in their short form, several flags in one word. The rest of the word after an option
with a value is that value. -/
def short (options : List Opt) : Reading → List Char → Except UsageFault Reading
  | reading, [] => .ok reading
  | reading, letter :: rest =>
      match options.find? (·.short? = some letter) with
      | none => .error .unknownArgument
      | some opt =>
          if opt.takesValue then
            match rest with
            | [] => reading.await opt
            | '=' :: value => reading.take opt (some (String.ofList value))
            | value => reading.take opt (some (String.ofList value))
          else do
            let next ← reading.take opt none
            short options next rest

def hasFile (reading : Reading) : Bool :=
  reading.given.file.isSome || match reading.pending with
    | some (.file _) => true
    | _ => false

def positional (takesArgs : Bool) (reading : Reading) (word : String) :
    Except UsageFault Reading :=
  if !reading.hasFile then do
    let settled ← reading.settle
    pure { settled with pending := some (.file word) }
  else if !takesArgs then .error .unknownArgument
  else match reading.pending with
    | some (.args values) => .ok { reading with pending := some (.args (values ++ [word])) }
    | _ => do
        let settled ← reading.settle
        pure { settled with pending := some (.args [word]) }

def word (options : List Opt) (takesArgs : Bool) (reading : Reading) (word : String) :
    Except UsageFault Reading :=
  match word.toList with
  | '-' :: '-' :: name => reading.long options name
  | '-' :: first :: rest => reading.short options (first :: rest)
  | _ =>
      match reading.awaiting? with
      | some opt => .ok { reading with pending := some (.option opt (some word)) }
      | none => reading.positional takesArgs word

def words (options : List Opt) (takesArgs : Bool) :
    Reading → List String → Except UsageFault Reading
  | reading, [] => reading.settle
  | reading, first :: rest =>
      if first = "--" then do
        let last ← rest.foldlM (Reading.positional takesArgs) reading
        last.settle
      else do
        let next ← reading.word options takesArgs first
        words options takesArgs next rest

end Reading

def Command.read (command : Command) (shared : List Opt) (words : List String) :
    Except UsageFault (Given × Request) := do
  let reading ← Reading.words (command.options ++ shared) command.takesArgs {} words
  let given := reading.given
  match given.file with
  | none => throw .missingArgument
  | some file =>
      pure (given, match command with
        | .run => .run {
            preloads := given.preloads
            allowShadowing := given.allowShadowing
            trapUnknownImports := given.trapUnknownImports
            invoke := given.invoke
            file := file
            args := given.args }
        | .manifest => .manifest { file := file, invoke := given.invoke, args := given.args }
        | .inspect => .inspect { preloads := given.preloads, file := file })

def Command.ofName? : String → Option Command
  | "run" => some .run
  | "manifest" => some .manifest
  | "inspect" => some .inspect
  | _ => none

structure Invocation where
  verbose : Nat
  quiet : Bool
  request : Request
  deriving DecidableEq, Repr

def sharedOptions : List Opt := [.verbose, .quiet]

/-- After the word `help` only the name of one command may stand. -/
def readHelp : List String → UsageFault
  | [] => .help
  | [name] => if (Command.ofName? name).isSome ∨ name = "help" then .help else .unknownSubcommand
  | _ => .unknownSubcommand

/-- The words before the command's name are options for logging; a count given after the name
replaces the one before it. -/
def Invocation.readWords : Reading → List String → Except UsageFault Invocation
  | _, [] => .error .missingSubcommand
  | outer, first :: rest =>
      if first = "help" then .error (readHelp rest)
      else match Command.ofName? first with
        | some command => do
            let (given, request) ← command.read sharedOptions rest
            let verbose := if given.verbose = 0 then outer.given.verbose else given.verbose
            pure ⟨verbose, given.quiet || outer.given.quiet, request⟩
        | none =>
            match first.toList with
            | ['-', '-'] => .error .unknownSubcommand
            | '-' :: _ :: _ => do
                let next ← outer.word (sharedOptions ++ [.help, .version]) false first
                readWords next rest
            | _ => .error .unknownSubcommand

def Invocation.read (words : List String) : Except UsageFault Invocation :=
  Invocation.readWords {} words

end Linkage
