import PageFlow.Text.Similar

/-! The arguments of the command line. A usage that is wrong, and a request for help, end the
program before anything is done. -/
namespace PageFlow
namespace CommandLine

structure RunArguments where
  request : String
  config : Option String
  headed : Bool
  chrome : Option String
  output : Option String
deriving DecidableEq, Repr, Inhabited

inductive Command where
  | run (a : RunArguments)
  | validate (request : String)
  | actions
deriving DecidableEq, Repr, Inhabited

/-- Why no command is run: a text asked for, or an error of usage. -/
inductive Stop where
  | shown (text : String)
  | usage (text : String)
deriving DecidableEq, Repr, Inhabited

/-- Settings of the environment that stand in for options. -/
structure Settings where
  config : Option String
  chrome : Option String
deriving DecidableEq, Repr, Inhabited

def versionText : String := "flowrun 0.1.0\n"

def mainHelp : String := "Run step-by-step browser automation flows

Usage: flowrun <COMMAND>

Commands:
  run       Run a flow request file and print the report as JSON
  validate  Check a flow request against the step grammar without running it
  actions   List every action and the actions allowed directly before it
  help      Print this message or the help of the given subcommand(s)

Options:
  -h, --help     Print help
  -V, --version  Print version
"

def runHelp : String := "Run a flow request file and print the report as JSON

Usage: flowrun run [OPTIONS] <REQUEST>

Arguments:
  <REQUEST>  Path to a `\x7b \"steps\": [..] \x7d` JSON file

Options:
      --config <CONFIG>  Engine configuration file (JSON) [env: FLOWRUN_CONFIG=]
      --headed           Show the browser window
      --chrome <CHROME>  Chrome or Chromium executable [env: CHROME_PATH=]
  -o, --output <OUTPUT>  Write the report here instead of stdout
  -h, --help             Print help
"

def validateHelp : String := "Check a flow request against the step grammar without running it

Usage: flowrun validate <REQUEST>

Arguments:
  <REQUEST>  

Options:
  -h, --help  Print help
"

def actionsHelp : String := "List every action and the actions allowed directly before it

Usage: flowrun actions

Options:
  -h, --help  Print help
"

def helpHelp : String := "Print this message or the help of the given subcommand(s)

Usage: flowrun help [COMMAND]...

Arguments:
  [COMMAND]...  Print help for the subcommand(s)
"

/-- What a command takes: its usage, options in the order of its help, and whether a file. -/
structure Shape where
  name : String
  usage : String
  help : String
  longs : List String
  shorts : List (Char × String)
  takesFile : Bool
deriving Inhabited

def mainShape : Shape :=
  ⟨"flowrun", "flowrun <COMMAND>", mainHelp, ["help", "version"],
    [('h', "help"), ('V', "version")], false⟩

def runShape : Shape :=
  ⟨"flowrun run", "flowrun run [OPTIONS] <REQUEST>", runHelp,
    ["config", "headed", "chrome", "output", "help"], [('o', "output"), ('h', "help")], true⟩

def validateShape : Shape :=
  ⟨"flowrun validate", "flowrun validate <REQUEST>", validateHelp, ["help"], [('h', "help")],
    true⟩

def actionsShape : Shape :=
  ⟨"flowrun actions", "flowrun actions", actionsHelp, ["help"], [('h', "help")], false⟩

def helpShape : Shape := ⟨"flowrun help", "flowrun help [COMMAND]...", helpHelp, [], [], false⟩

def commands : List (String × Shape) :=
  [("run", runShape), ("validate", validateShape), ("actions", actionsShape), ("help", helpShape)]

def requestTitle : String := "<REQUEST>"

def valueOptions : List (String × String) :=
  [("config", "CONFIG"), ("chrome", "CHROME"), ("output", "OUTPUT")]

def title (item : String) : String :=
  if item = requestTitle then item
  else "--" ++ item ++ match valueOptions.lookup item with
    | some value => " <" ++ value ++ ">"
    | none => ""

/-- The usage of a command with some of its options; what it needs is there in any case. -/
def Shape.usageWith (s : Shape) (used : List String) : String :=
  if used.isEmpty then s.usage
  else
    let options := (used.filter (· ≠ requestTitle)).eraseDups.map title
    let needed := if s.takesFile then [requestTitle] else if s.name = "flowrun" then ["<COMMAND>"]
      else []
    " ".intercalate (s.name :: options ++ needed)

def moreHelp : String := "\n\nFor more information, try '--help'.\n"

def wrong (problem usage : String) : Stop :=
  .usage ("error: " ++ problem ++ "\n\nUsage: " ++ usage ++ moreHelp)

def tip (advice : String) : String := "\n\n  tip: " ++ advice

def unexpected (argument usage advice : String) : Stop :=
  wrong ("unexpected argument '" ++ argument ++ "' found" ++ advice) usage

def valueTip (argument : String) : String :=
  tip ("to pass '" ++ argument ++ "' as a value, use '-- " ++ argument ++ "'")

def missingRequest (usage : String) : Stop :=
  wrong ("the following required arguments were not provided:\n  " ++ requestTitle) usage

def missingValue (item : String) : Stop :=
  .usage ("error: a value is required for '" ++ title item ++ "' but none was supplied" ++ moreHelp)

def repeated (item usage : String) : Stop :=
  wrong ("the argument '" ++ title item ++ "' cannot be used multiple times") usage

def needlessValue (item value usage : String) : Stop :=
  wrong ("unexpected value '" ++ value ++ "' for '" ++ title item ++
    "' found; no more were expected") usage

def unknownCommand (name usage advice more : String) : Stop :=
  .usage ("error: unrecognized subcommand '" ++ name ++ "'" ++ advice ++ "\n\nUsage: " ++ usage ++
    more)

/-- What has been read so far: the items that were given, in their order, and what they say. One
item may wait until it is known to be complete. -/
structure Draft where
  used : List String
  values : List (String × String)
  waiting : Option (String × Option String)
deriving Inhabited

/-- Settles what waits: a value may be missing, or given a second time. Only the executable of the
browser may be empty. -/
def Draft.settle (d : Draft) (s : Shape) : Option Stop × Draft :=
  match d.waiting with
  | none => (none, d)
  | some (item, value) =>
    let d := { d with waiting := none }
    match value with
    | none => (some (missingValue item), d)
    | some v =>
      if d.used.contains item then
        (some (repeated item s.usage), { d with used := d.used.erase item })
      else
        let d := { d with used := d.used ++ [item], values := (item, v) :: d.values }
        (if v = "" ∧ item ≠ "chrome" then some (missingValue item) else none, d)

def Draft.settled (d : Draft) (s : Shape) : Except Stop Draft :=
  match d.settle s with
  | (some stop, _) => .error stop
  | (none, d) => .ok d

def Draft.flag (d : Draft) (s : Shape) (item : String) : Except Stop Draft := do
  let d ← d.settled s
  if item = "help" then .error (.shown s.help)
  else if item = "version" then .error (.shown versionText)
  else if d.used.contains item then .error (repeated item s.usage)
  else .ok { d with used := d.used ++ [item] }

def Draft.option (d : Draft) (s : Shape) (item : String) (value : Option String) :
    Except Stop Draft := do
  let d ← d.settled s
  let d := { d with waiting := some (item, value) }
  if value.isSome then d.settled s else .ok d

/-- The option of another command that a name is like, if that command comes later. -/
def elsewhere? (name : String) (later : List String) : Option String :=
  let found := commands.filterMap fun c => do
    let option ← (Text.Similar.among name c.2.longs).getLast?
    let place ← later.idxOf? c.1
    some (place, c.1 ++ " --" ++ option)
  ((found.mergeSort fun a b => a.1 ≤ b.1).head?).map (·.2)

def unknownOption (s : Shape) (d : Draft) (name : String) (later : List String) : Stop :=
  let d := (d.settle s).2
  let argument := "--" ++ name
  match (Text.Similar.among name s.longs).getLast? with
  | some option =>
    unexpected argument (s.usageWith (d.used ++ [option]))
      (tip ("a similar argument exists: '--" ++ option ++ "'"))
  | none =>
    let advice := match if s.name = mainShape.name then elsewhere? name later else none with
      | some option => tip ("'" ++ option ++ "' exists")
      | none => if s.takesFile then valueTip argument else ""
    unexpected argument (s.usageWith d.used) advice

def Draft.long (d : Draft) (s : Shape) (text : List Char) (later : List String) :
    Except Stop Draft :=
  let name := String.ofList (text.takeWhile (· ≠ '='))
  let value := if text.contains '=' then some (String.ofList ((text.dropWhile (· ≠ '=')).drop 1))
    else none
  if !s.longs.contains name then .error (unknownOption s d name later)
  else if (valueOptions.lookup name).isSome then d.option s name value
  else match value with
    | some v =>
      .error (needlessValue name v (s.usageWith (d.used.filter (· ≠ requestTitle) ++ [name])))
    | none => d.flag s name

/-- Takes letters after one dash; one that takes a value takes the rest for it. -/
def Draft.short (d : Draft) (s : Shape) : List Char → Except Stop Draft
  | [] => .ok d
  | c :: rest =>
    match s.shorts.lookup c with
    | none =>
      let argument := "-" ++ String.singleton c
      .error (unexpected argument s.usage (if s.takesFile then valueTip argument else ""))
    | some item =>
      if (valueOptions.lookup item).isSome then
        d.option s item (if rest.isEmpty then none
          else some (String.ofList (if rest.head? = some '=' then rest.tail else rest)))
      else (d.flag s item).bind fun d => d.short s rest

def Draft.file (d : Draft) (s : Shape) (argument : String) : Except Stop Draft :=
  let given := (d.used.contains requestTitle) || d.waiting.any (·.1 = requestTitle)
  if given ∨ !s.takesFile then .error (unexpected argument s.usage "")
  else do
    let d ← d.settled s
    .ok { d with waiting := some (requestTitle, some argument) }

/-- Reads the arguments of a command from left to right; after two dashes all are files. -/
def Draft.read (s : Shape) : Bool → Draft → List String → Except Stop Draft
  | _, d, [] => d.settled s
  | true, d, a :: rest => do
    let d ← d.file s a
    Draft.read s true d rest
  | false, d, a :: rest =>
    match a.toList with
    | ['-', '-'] => Draft.read s true d rest
    | '-' :: '-' :: text => do
      let d ← d.long s text rest
      Draft.read s false d rest
    | '-' :: c :: text => do
      let d ← d.short s (c :: text)
      Draft.read s false d rest
    | _ => do
      let d ← match d.waiting with
        | some (item, none) => .ok { d with waiting := some (item, some a) }
        | _ => d.file s a
      Draft.read s false d rest

def readWithFile (s : Shape) (arguments : List String) : Except Stop (String × Draft) := do
  let d ← Draft.read s false default arguments
  match d.values.lookup requestTitle with
  | some request => .ok (request, d)
  | none => .error (missingRequest (s.usageWith (d.used ++ [requestTitle])))

def parseRun (s : Settings) (arguments : List String) : Except Stop Command := do
  let (request, d) ← readWithFile runShape arguments
  .ok (.run ⟨request, (d.values.lookup "config").or s.config, d.used.contains "headed",
    (d.values.lookup "chrome").or s.chrome, d.values.lookup "output"⟩)

def parseValidate (arguments : List String) : Except Stop Command := do
  let (request, _) ← readWithFile validateShape arguments
  .ok (.validate request)

def parseActions (arguments : List String) : Except Stop Command := do
  let _ ← Draft.read actionsShape false default arguments
  .ok .actions

/-- Help on a command; no command has commands of its own. -/
def parseHelp : List String → Stop
  | [] => .shown mainHelp
  | name :: rest =>
    match commands.lookup name, rest with
    | none, _ => unknownCommand name mainShape.usage "" moreHelp
    | some s, [] => .shown s.help
    | some s, below :: _ =>
      unknownCommand below s.usage "" (if name = "help" then "\n" else moreHelp)

def strangeCommand (name : String) : Stop :=
  let advice := match Text.Similar.among name (commands.map (·.1)) with
    | [] => ""
    | [one] => tip ("a similar subcommand exists: '" ++ one ++ "'")
    | all => tip ("some similar subcommands exist: " ++
        ", ".intercalate (all.map fun c => "'" ++ c ++ "'"))
  unknownCommand name mainShape.usage advice moreHelp

def parse (s : Settings) : List String → Except Stop Command
  | [] => .error (.usage mainHelp)
  | "run" :: rest => parseRun s rest
  | "validate" :: rest => parseValidate rest
  | "actions" :: rest => parseActions rest
  | "help" :: rest => .error (parseHelp rest)
  | a :: rest =>
    match a.toList, rest with
    | ['-', '-'], [] => .error (.usage mainHelp)
    | ['-', '-'], b :: _ =>
      if (commands.lookup b).isSome then
        .error (unexpected b mainShape.usage
          (tip ("subcommand '" ++ b ++ "' exists; to use it, remove the '--' before it")))
      else .error (strangeCommand b)
    | '-' :: '-' :: text, _ => do
      let _ ← Draft.long default mainShape text rest
      .error (strangeCommand a)
    | '-' :: c :: text, _ => do
      let _ ← Draft.short default mainShape (c :: text)
      .error (strangeCommand a)
    | _, _ => .error (strangeCommand a)

end CommandLine
end PageFlow
