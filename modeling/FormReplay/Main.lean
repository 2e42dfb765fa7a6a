import FormReplay.CommandLine.Command
/-!
# The program

Reads the files and variables that a command line needs, and prints what the command says.
-/
namespace FormReplay

def readText? (path : String) : IO (Option String) := do
  try return some (← IO.FS.readFile path) catch _ => return none

def readFiles (paths : List String) : IO (List (String × String)) :=
  paths.filterMapM fun path => do return (← readText? path).map (path, ·)

/-- The variables of the configuration that are set, their names in either case. -/
def readEnvironment : IO (List (String × String)) :=
  (Config.fields.flatMap fun f => [f.name.toUpper, f.name]).filterMapM fun name => do
    let key := String.ofList Config.variableStart ++ name
    return (← IO.getEnv key).map (key, ·)

def randomHex (digits : Nat) : IO (List Char) :=
  (List.range digits).mapM fun _ => do return hexDigit (← IO.rand 0 15)

def randomId : IO String := do
  let variant := hexDigit (8 + (← IO.rand 0 3))
  return String.ofList ((← randomHex 8) ++ ['-'] ++ (← randomHex 4) ++ ['-', '4'] ++ (← randomHex 3)
    ++ ['-', variant] ++ (← randomHex 3) ++ ['-'] ++ (← randomHex 12))

def print : Output → IO Unit
  | .lines ls => ls.forM IO.println
  | .report r => do
    let id ← randomId
    match r.toJson with
    | .obj fields => IO.println (Json.obj (("run_id", .str id) :: fields)).pretty
    | j           => IO.println j.pretty

end FormReplay

open FormReplay in
def main (args : List String) : IO UInt32 := do
  let files ← readFiles (Invocation.ofArguments args).files
  let around : Surroundings := ⟨fun path => field? path files, ← readEnvironment⟩
  let printed := around.carryOut args
  print printed.output
  return printed.exitCode.toUInt32
