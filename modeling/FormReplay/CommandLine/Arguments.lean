import FormReplay.Run.Config
/-!
# Arguments

What a command line asks for.  The command stands first; its options and its file follow in any
order, the value of an option behind it or attached to it.
-/
namespace FormReplay

inductive Command where
  | check (workflow : String)
  /-- Walk a workflow over a file of data without carrying out any step. -/
  | dryRun (workflow data : String) (skipRows : Nat) (limitRows : Option Nat)
  deriving DecidableEq, Repr

inductive Invocation where
  | command (c : Command)
  | help
  | version
  | misuse
  deriving DecidableEq, Repr

namespace Arguments

inductive OptionName where
  | data
  | skipRows
  | limitRows
  deriving DecidableEq, Repr

structure Given where
  workflow  : Option String := none
  data      : Option String := none
  skipRows  : Option Nat := none
  limitRows : Option Nat := none

namespace Given

def place {α : Type} (old : Option α) (value : Option α) : Option (Option α) :=
  match old, value with
  | none, some v => some (some v)
  | _, _         => none

def fileName? (s : String) : Option String := if s.isEmpty then none else some s

def number? (s : String) : Option Nat := (Config.readWord s).toOption

def addFile (g : Given) (s : String) : Option Given := do
  return { g with workflow := ← place g.workflow (fileName? s) }

def addOption (g : Given) (o : OptionName) (s : String) : Option Given := do
  match o with
  | .data      => return { g with data := ← place g.data (fileName? s) }
  | .skipRows  => return { g with skipRows := ← place g.skipRows (number? s) }
  | .limitRows => return { g with limitRows := ← place g.limitRows (number? s) }

end Given

/-- One argument, told apart by how it begins. -/
inductive Word where
  /-- All that follows are files. -/
  | separator
  | long (name : String) (value : Option String)
  /-- An option by its letter, with what is attached to it. -/
  | short (letter : Char) (rest : List Char)
  | file (s : String)
  deriving DecidableEq, Repr

def Word.ofString (s : String) : Word :=
  match s.toList with
  | ['-', '-'] => .separator
  | '-' :: '-' :: cs =>
    let name := cs.takeWhile (· != '=')
    .long (String.ofList name)
      (match cs.drop name.length with | [] => none | _ :: v => some (String.ofList v))
  | '-' :: c :: rest => .short c rest
  | _ => .file s

def OptionName.ofLong : String → Option OptionName
  | "data"       => some .data
  | "skip-rows"  => some .skipRows
  | "limit-rows" => some .limitRows
  | _            => none

/-- What is attached to a letter, behind an equals sign or directly. -/
def attached : List Char → Option String
  | []        => none
  | '=' :: cs => some (String.ofList cs)
  | cs        => some (String.ofList cs)

/-- Reads the arguments behind a command, of which only the dry run has options.  `pending` is an
option whose value is to come. -/
def readRest (hasOptions : Bool) (g : Given) (pending : Option OptionName) :
    List String → Except Invocation Given
  | [] => if pending.isSome then .error .misuse else .ok g
  | arg :: rest =>
    let accept (g : Option Given) : Except Invocation Given :=
      match g with
      | some g => readRest hasOptions g none rest
      | none   => .error .misuse
    match Word.ofString arg, pending with
    | .file s, some o => accept (g.addOption o s)
    | .file s, none   => accept (g.addFile s)
    | _, some _ => .error .misuse
    | .separator, none =>
      match rest.foldlM Given.addFile g with
      | some g => .ok g
      | none   => .error .misuse
    | .long "help" none, none => .error .help
    | .short 'h' _, none => .error .help
    | .long name value, none =>
      match hasOptions, OptionName.ofLong name, value with
      | true, some o, some v => accept (g.addOption o v)
      | true, some o, none   => readRest hasOptions g (some o) rest
      | _, _, _              => .error .misuse
    | .short letter cs, none =>
      match hasOptions && letter == 'd', attached cs with
      | true, some v => accept (g.addOption .data v)
      | true, none   => readRest hasOptions g (some .data) rest
      | false, _     => .error .misuse

def finish (toCommand : Given → Option Command) : Except Invocation Given → Invocation
  | .ok g         => match toCommand g with | some c => .command c | none => .misuse
  | .error asked  => asked

end Arguments

def Invocation.ofArguments : List String → Invocation
  | "check" :: rest =>
    Arguments.finish (fun g => g.workflow.map .check) (Arguments.readRest false {} none rest)
  | "dry-run" :: rest =>
    Arguments.finish (fun g => do return .dryRun (← g.workflow) (← g.data) (g.skipRows.getD 0) g.limitRows)
      (Arguments.readRest true {} none rest)
  | ["help"] | ["help", "check"] | ["help", "dry-run"] | ["help", "help"] => .help
  | first :: _ =>
    match Arguments.Word.ofString first with
    | .long "help" none | .short 'h' _    => .help
    | .long "version" none | .short 'V' _ => .version
    | _ => .misuse
  | [] => .misuse

end FormReplay
