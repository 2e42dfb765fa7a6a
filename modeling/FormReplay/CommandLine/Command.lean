import FormReplay.CommandLine.Arguments
import FormReplay.CommandLine.Variables
import FormReplay.Data.Document
import FormReplay.Json.Reader
import FormReplay.Run.Conduct
import FormReplay.Yaml.Node
/-!
# Commands

What a command prints, and with which code it exits, given the files and variables around it.  A
check succeeds if there are no issues, and a dry run if it completes.
-/
namespace FormReplay

structure Surroundings where
  file?       : String → Option String
  environment : List (String × String)

inductive Output where
  | lines (ls : List String)
  | report (r : RunReport)

structure Printed where
  exitCode : Nat
  output   : Output

namespace Printed

def failure : Printed := ⟨1, .lines []⟩

def misuse : Printed := ⟨2, .lines []⟩

end Printed

/-! ## Documents -/

/-- The part of a path behind its last slash, slashes at the end apart. -/
def lastPart (path : String) : List Char :=
  ((path.toList.reverse.dropWhile (· == '/')).takeWhile (· != '/')).reverse

/-- The name of a file without its extension, and the extension: what follows the last point, unless
the name begins with that point. -/
def splitExtension (name : List Char) : List Char × Option (List Char) :=
  let extension := (name.reverse.takeWhile (· != '.')).reverse
  let stem := name.take (name.length - extension.length - 1)
  if stem.isEmpty || !name.contains '.' then (name, none) else (stem, some extension)

def isYaml (path : String) : Bool :=
  match (splitExtension (lastPart path)).2 with
  | some e => e == "yaml".toList || e == "yml".toList
  | none   => false

/-- The workflow in a file: YAML by its extension, and otherwise JSON. -/
def Surroundings.loadWorkflow? (s : Surroundings) (path : String) : Option Workflow := do
  let text ← s.file? path
  if isYaml path then Workflow.ofTree? (← Yaml.Node.read? text)
  else Workflow.ofTree? (← WrittenJson.read? text)

def Surroundings.loadValue? (s : Surroundings) (path : String) : Option Json := do
  let text ← s.file? path
  if isYaml path then (← Yaml.Node.read? text).value? else Json.read? text

/-- The input in a file: datasets, or a bare list of rows, which are a dataset with the name of the
file. -/
def Surroundings.loadInput? (s : Surroundings) (path : String) : Option RunInput := do
  match ← s.loadValue? path with
  | .arr items =>
    let name := String.ofList (splitExtension (lastPart path)).1
    return ⟨⟨name, ← items.mapM Json.record?⟩, []⟩
  | j => RunInput.ofJson? j

/-! ## The two commands -/

def checkLines (w : Workflow) : List String :=
  let (tables, issues) := w.analyze
  [s!"Workflow: {w.name}", s!"  steps:       {w.steps.length}",
    s!"  loops:       {tables.loopToEnd.length}", s!"  if blocks:   {tables.ifToEnd.length}",
    s!"  labels:      {tables.labels.length}", s!"  handlers:    {w.handlers.length}"] ++
  if issues.isEmpty then ["No structural issues"]
  else s!"{issues.length} structural issue(s):" :: issues.map fun i => "  - " ++ i.message

def Surroundings.check (s : Surroundings) (path : String) : Printed :=
  match s.loadWorkflow? path with
  | some w => ⟨if w.analyze.2.isEmpty then 0 else 1, .lines (checkLines w)⟩
  | none   => .failure

def Surroundings.fullEnvironment (s : Surroundings) : List (String × String) :=
  match s.file? ".env" with
  | some text => Variables.load s.environment text
  | none      => s.environment

/-- More steps than any walk takes in a lifetime. -/
def lifetime : Nat := Nat.pow 2 60

def Surroundings.dryRun (s : Surroundings) (workflow data : String) (skipRows : Nat)
    (limitRows : Option Nat) : Printed :=
  let printed : Option Printed := do
    let w ← s.loadWorkflow? workflow
    let input ← s.loadInput? data
    let config ← (Config.ofEnvironment s.fullEnvironment).toOption
    let env : Env Unit := {
      host    := .inert
      config
      options := { skipRows, limitRows, dryRun := true }
      fuel    := lifetime
      epoch   := ⟨0, 0⟩ }
    let finished ← run env w input { host := () }
    return ⟨if finished.report.outcome.isCompleted then 0 else 1, .report finished.report⟩
  printed.getD .failure

/-! ## The command line -/

def usage : List String :=
  ["Usage: formrun check <WORKFLOW>",
   "       formrun dry-run [--skip-rows <N>] [--limit-rows <N>] --data <DATA> <WORKFLOW>"]

def Invocation.files : Invocation → List String
  | .command (.check workflow)           => [workflow]
  | .command (.dryRun workflow data _ _) => [workflow, data, ".env"]
  | _                                    => []

def Surroundings.carryOut (s : Surroundings) (args : List String) : Printed :=
  match Invocation.ofArguments args with
  | .command (.check workflow) => s.check workflow
  | .command (.dryRun workflow data skipRows limitRows) => s.dryRun workflow data skipRows limitRows
  | .help    => ⟨0, .lines usage⟩
  | .version => ⟨0, .lines ["formrun 0.4.2"]⟩
  | .misuse  => .misuse

end FormReplay
