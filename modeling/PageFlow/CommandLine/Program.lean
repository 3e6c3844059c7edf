import PageFlow.CommandLine.Arguments
import PageFlow.Engine.Interpreter
import PageFlow.Json.Printer

/-! What the command line does, as a program that reads and writes files, prints, and asks for the
operations of the engine on a browser of a configuration. It ends with a status: 0 for success, 1
for a flow that failed, 2 for an error. -/
namespace PageFlow
namespace CommandLine

inductive Op where
  | readFile (path : String)
  | writeFile (path text : String)
  | print (text : String)
  | printError (text : String)
  | date
  | engine (config : BrowserConfig) (op : Engine.Op)

def Reply : Op → Type
  | .readFile _ => Except FlowError String
  | .writeFile _ _ => Except FlowError Unit
  | .print _ => Unit
  | .printError _ => Unit
  | .date => Moment
  | .engine _ op => Engine.Reply op

abbrev Console (α : Type) := Prog Op Reply α

def ask (op : Op) : Console (Reply op) := Prog.call op

def readFile (path : String) : ExceptT FlowError (Prog Op Reply) String :=
  ExceptT.mk (ask (.readFile path))

def print (text : String) : ExceptT FlowError (Prog Op Reply) Unit :=
  ExceptT.lift (ask (.print text))

def ofExcept (r : Except FlowError τ) : ExceptT FlowError (Prog Op Reply) τ := ExceptT.mk (pure r)

/-- An attempt of the engine, with the browser of a configuration, and its outcome. -/
def inEngine (config : BrowserConfig) (a : Attempt τ) : Console (Except FlowError τ) :=
  a.run.expand fun op => ask (.engine config op)

def readRequest (path : String) : ExceptT FlowError (Prog Op Reply) FlowRequest := do
  let text ← readFile path
  match Json.ofText FlowRequest.read text with
  | .ok request => pure request
  | .error flaw => throw (.json (flaw.messageIn text))

def readConfig : Option String → ExceptT FlowError (Prog Op Reply) EngineConfig
  | none => pure .default
  | some path => do
    let contents ← ExceptT.lift (ask (.readFile path))
    ofExcept (EngineConfig.ofFile path contents)

def browserOf (c : BrowserConfig) (a : RunArguments) : BrowserConfig :=
  { c with headless := c.headless && !a.headed, chromePath := a.chrome.or c.chromePath }

def deliver (output : Option String) (report : FlowReport) :
    ExceptT FlowError (Prog Op Reply) Unit :=
  match output with
  | some path => ExceptT.mk (ask (.writeFile path report.toJson.pretty))
  | none => print (report.toJson.pretty ++ "\n")

/-- Runs a flow on a pool of its own, which is shut down in any case, and says whether it
succeeded. -/
def run (a : RunArguments) : ExceptT FlowError (Prog Op Reply) Bool := do
  let request ← readRequest a.request
  let config ← readConfig a.config
  let browser := browserOf config.browser a
  let interpreter := Interpreter.standard { config with browser := browser }
  let outcome ← ExceptT.lift (inEngine browser (interpreter.run request))
  let _ ← ExceptT.lift (inEngine browser Pool.shutdown)
  let report ← ofExcept outcome
  deliver a.output report
  pure report.success

def validate (path : String) : ExceptT FlowError (Prog Op Reply) Bool := do
  let request ← readRequest path
  ofExcept (Grammar.validate request.steps)
  print ("ok: " ++ toString request.steps.length ++ " steps\n")
  pure true

def column (s : String) (width : Nat) : String :=
  s ++ String.ofList (List.replicate (width - s.length) ' ')

def actionLine (a : Action) : String :=
  let target := if a.consumesElement then "element" else "page"
  let before := match Grammar.allowedBefore a with
    | [] => "any"
    | all => "after " ++ ", ".intercalate (all.map Action.name)
  column a.name 28 ++ " " ++ column target 8 ++ " " ++ before ++ "\n"

def actions : ExceptT FlowError (Prog Op Reply) Bool := do
  print (String.join (Action.all.map actionLine))
  pure true

def perform : Command → ExceptT FlowError (Prog Op Reply) Bool
  | .run a => run a
  | .validate request => validate request
  | .actions => actions

/-- The status of a finished command; an error is printed as a body. -/
def finish : Except FlowError Bool → Console Nat
  | .ok true => pure 0
  | .ok false => pure 1
  | .error e => do
    let date ← ask .date
    ask (.printError ((ErrorBody.ofError e date.millisText).toJson.pretty ++ "\n"))
    pure 2

def program (s : Settings) (arguments : List String) : Console Nat :=
  match parse s arguments with
  | .error (.shown text) => do
    ask (.print text)
    pure 0
  | .error (.usage text) => do
    ask (.printError text)
    pure 2
  | .ok c => do
    let result ← (perform c).run
    finish result

end CommandLine
end PageFlow
