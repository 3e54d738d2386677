import GraphLayer.Project.Command

/-!
# The command line

* `Command`, what may be asked for on the command line;
* `Asked.parse`, its reading: options may come in any order, may be joined with their values,
  and may not be given twice;
* `Exit`, what the program leaves behind, and `invoke`, the whole program.
-/

namespace GraphLayer.Project

/-- What may be asked for. -/
inductive Command where
  | generate (config : Option Path) (dir : Path) (debug : Bool)
  | validate (config : Option Path) (dir : Path)
  | start (dir : Path)
  deriving DecidableEq, Repr

/-- A command line. -/
inductive Asked where
  | command (c : Command)
  | help
  /-- It has no meaning. -/
  | misuse
  deriving DecidableEq, Repr

namespace Asked

/-- The options of the commands that look at a project. -/
structure Options where
  config : Option Path := none
  dir : Option Path := none
  debug : Bool := false

/-- Options with a value. -/
inductive Key where
  | config
  | dir
  deriving DecidableEq

/-- Give a value to an option, which may not have one yet; no value is empty. -/
def Options.set? (o : Options) (k : Key) (value : String) : Option Options :=
  if value.isEmpty then none
  else
    match k with
    | .config => if o.config.isSome then none else some { o with config := some ⟨value⟩ }
    | .dir => if o.dir.isSome then none else some { o with dir := some ⟨value⟩ }

/-- What an argument begins. -/
inductive Start where
  | help
  | debug
  /-- An option whose value is the next argument. -/
  | key (k : Key)
  /-- An option that is joined with its value. -/
  | pair (k : Key) (value : String)
  /-- What follows is no option. -/
  | rest
  | other

/-- Read the beginning of an argument. -/
def Start.ofArgument (arg : String) : Start :=
  let short (k : Key) : List Char → Start
    | [] => .key k
    | '=' :: value => .pair k (String.ofList value)
    | value => .pair k (String.ofList value)
  match arg.toList with
  | '-' :: '-' :: word =>
    match word.takeWhile (· != '='), word.dropWhile (· != '=') with
    | [], [] => .rest
    | name, [] =>
      if name = "help".toList then .help
      else if name = "debug".toList then .debug
      else if name = "config".toList then .key .config
      else if name = "path".toList then .key .dir
      else .other
    | name, _ :: value =>
      if name = "config".toList then .pair .config (String.ofList value)
      else if name = "path".toList then .pair .dir (String.ofList value)
      else .other
  | '-' :: 'h' :: _ => .help
  | '-' :: 'c' :: value => short .config value
  | '-' :: 'p' :: value => short .dir value
  | _ => .other

/-- Whether an argument can stand for itself: it does not look like an option. -/
def isValue (arg : String) : Bool :=
  match arg.toList with
  | '-' :: _ :: _ => false
  | _ => true

/-- Read the options of a command that looks at a project. -/
def options (debug : Bool) (finish : Options → Command) : Options → List String → Asked
  | o, [] => .command (finish o)
  | o, arg :: args =>
    match Start.ofArgument arg with
    | .help => .help
    | .debug =>
      if debug && !o.debug then options debug finish { o with debug := true } args else .misuse
    | .pair k value =>
      match o.set? k value with
      | some o => options debug finish o args
      | none => .misuse
    | .key k =>
      match args with
      | [] => .misuse
      | value :: args =>
        if isValue value then
          match o.set? k value with
          | some o => options debug finish o args
          | none => .misuse
        else .misuse
    | .rest => if args.isEmpty then .command (finish o) else .misuse
    | .other => .misuse

/-- Read the directory of a new project, which is the current one unless it is given. -/
def directory (dir? : Option Path) : List String → Asked
  | [] => .command (.start (dir?.getD ⟨"."⟩))
  | arg :: args =>
    match Start.ofArgument arg with
    | .help => .help
    | .rest =>
      match dir?, args with
      | _, [] => .command (.start (dir?.getD ⟨"."⟩))
      | none, [value] => if value.isEmpty then .misuse else .command (.start ⟨value⟩)
      | _, _ => .misuse
    | _ =>
      if dir?.isNone && isValue arg && !arg.isEmpty then directory (some ⟨arg⟩) args else .misuse

/-- Read a command with its arguments. -/
def ofCommand : List String → Asked
  | [] => .misuse
  | "generate" :: args =>
    options true (fun o => .generate o.config (o.dir.getD ⟨"."⟩) o.debug) {} args
  | "validate" :: args => options false (fun o => .validate o.config (o.dir.getD ⟨"."⟩)) {} args
  | "init" :: args => directory none args
  | "help" :: [] => .help
  | "help" :: args =>
    if args ∈ [["generate"], ["validate"], ["init"], ["help"]] then .help else .misuse
  | arg :: _ =>
    match Start.ofArgument arg with
    | .help => .help
    | _ => .misuse

/-- Read a command line; the name under which the program is called may stand first. -/
def parse : List String → Asked
  | "servgraph" :: args => ofCommand args
  | args => ofCommand args

end Asked

/-! ### The program -/

/-- What the program leaves behind. -/
structure Exit where
  code : UInt32
  /-- The lines of its output. -/
  printed : List String := []
  /-- Its message about a failure. -/
  message : Option String := none

/-- How the program is called. -/
def usage : List String :=
  ["Usage: cargo-servgraph <COMMAND>",
   "",
   "Commands:",
   "  generate  Generate schema, contracts, resolver stubs and batch loaders",
   "  validate  Check the configuration and catalog without writing files",
   "  init      Write a starter configuration and catalog",
   "  help      Print this message"]

variable {m : Type → Type} [Monad m] [FileStore m]

/-- Follow a command. -/
def Command.run : Command → m Outcome
  | generate config dir _ => Project.generate dir config
  | validate config dir => Project.validate dir config
  | start dir => Project.start dir

/-- Follow a command line. -/
def invoke (args : List String) : m Exit := do
  match Asked.parse args with
  | .misuse => return { code := 2, message := some (String.intercalate "\n" usage) }
  | .help => return { code := 0, printed := usage }
  | .command c =>
    let o ← c.run
    match o.result with
    | .ok _ => return { code := 0, printed := o.printed }
    | .error e =>
      return { code := 1, printed := o.printed, message := some ("Error: " ++ e.report) }

end GraphLayer.Project
