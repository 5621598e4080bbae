import EntityFilter.CommandLine.Arguments

/-!
A run of the program, as a function of its arguments, its environment and its access to files.
-/

namespace EntityFilter

/-- What a run leaves: its exit code, its output, and why it failed if it did. -/
structure Outcome where
  exitCode : Nat
  output : String := ""
  failure : Option ProgramError := none
  deriving DecidableEq, Repr

namespace Program

def versionText : String := "sieve 0.3.1\n"

def helpText : String :=
  "Compile entity filters into parameterized SQL\n\nUsage: sieve [OPTIONS] <COMMAND>\n\n" ++
  "Commands:\n  compile   Compile a filter request into a SELECT statement\n" ++
  "  dialects  List supported SQL dialects\n\nOptions:\n" ++
  "  -c, --config <CONFIG>              Config file path (JSON)\n" ++
  "  -d, --dialect <DIALECT>            Target SQL dialect\n" ++
  "      --param-prefix <PARAM_PREFIX>  Prefix for generated parameter names\n" ++
  "  -s, --schema <SCHEMA>              Schema catalog file (JSON)\n" ++
  "  -r, --request <REQUEST>            Request file of compile, or - for standard input\n" ++
  "  -f, --format <FORMAT>              Output format of compile: sql or json\n" ++
  "  -h, --help                         Print help\n" ++
  "  -V, --version                      Print version\n"

variable {m : Type → Type} [Monad m]

/-- The text of a request, from its file or from standard input. -/
def readRequest (files : Files m) (stdin : m (Option String)) (path : String) :
    ExceptT ProgramError m String := do
  if path = Invocation.stdinPath then
    match ← (stdin : m (Option String)) with
    | some text => return text
    | none => throw (.requestUnreadable none)
  else
    match ← (files.read? path : m (Option String)) with
    | some text => return text
    | none => throw (.requestUnreadable (some path))

def perform (files : Files m) (stdin : m (Option String)) (i : Invocation) :
    ExceptT ProgramError m String := do
  let config ← Config.load files i.overrides
  match i.command with
  | .dialects => return config.listing
  | .compile path format =>
    let request ← readRequest files stdin path
    let query ← config.compile files request
    return query.render format ++ "\n"

def run (files : Files m) (stdin : m (Option String)) (e : Environment) (args : List String) :
    m Outcome := do
  match Invocation.ofArguments e args with
  | .error .usage => return { exitCode := 2 }
  | .error .help => return { exitCode := 0, output := helpText }
  | .error .version => return { exitCode := 0, output := versionText }
  | .ok invocation =>
    match ← (perform files stdin invocation).run with
    | .ok output => return { exitCode := 0, output }
    | .error failure => return { exitCode := 1, failure := some failure }

/-- A run of the program that first reads the text of a file of variables.  It aborts if a variable
cannot have its value. -/
def start (files : Files m) (stdin : m (Option String)) (outside : Environment)
    (definitions : String) (args : List String) : m Outcome :=
  match outside.withFile? definitions with
  | some e => run files stdin e args
  | none => return { exitCode := 101 }

end Program
end EntityFilter
