import TabularSearch.Cli.Run

/-!
# The command line program

The variables and files that a command line may need are read first; then the
command is a function of them, and what it does is carried out.
-/

namespace TabularSearch.Cli

/-- The values of the variables that are set. -/
def readVariables : List String → IO (List (String × String))
  | [] => pure []
  | name :: rest => do
    let others ← readVariables rest
    match ← IO.getEnv name with
    | some value => return (name, value) :: others
    | none => return others

/-- The text of a file; none if it is missing or not Unicode. -/
def readText? (path : String) : IO (Option String) := do
  try
    return some (← IO.FS.readFile path)
  catch _ =>
    return none

/-- The texts of the files that can be read. -/
def readTexts : List String → IO (List (String × String))
  | [] => pure []
  | path :: rest => do
    let others ← readTexts rest
    match ← readText? path with
    | some text => return (path, text) :: others
    | none => return others

/-- Whether a file could be written. -/
def writeText (path content : String) : IO Bool := do
  try
    IO.FS.writeFile path content
    return true
  catch _ =>
    return false

/-- What an action comes to. -/
def Action.perform : Action → IO Outcome
  | .finish outcome => pure outcome
  | .write path content written refused => do
    if ← writeText path content then return written else return refused

/-- The program. -/
def runProgram (arguments : List String) : IO UInt32 := do
  let found ← readVariables Surroundings.variableNames
  let lookup? (name : String) : Option String := found.lookup name
  let texts ← readTexts (readPaths lookup? arguments)
  let surroundings : Surroundings :=
    { lookup?, file? := fun path => texts.lookup path }
  let outcome ← (action surroundings arguments).perform
  IO.print outcome.output
  IO.eprint outcome.complaint
  return outcome.exit.code.toUInt32

end TabularSearch.Cli

/-- The program. -/
def main (arguments : List String) : IO UInt32 :=
  TabularSearch.Cli.runProgram arguments
