import EntityFilter.Config.FileConfig
import EntityFilter.Config.Files
import EntityFilter.Config.Path
import EntityFilter.Request.Compile

/-!
The configuration of the program: what the caller sets goes before what the configuration file
says, and that before the defaults.  With it, requests are compiled against the catalog in a file.
-/

namespace EntityFilter

/-- Why the program fails.  A request without a path is the one on standard input. -/
inductive ProgramError where
  | configNotFound (path : String)
  | configUnreadable (path : String)
  | configInvalid (path : String) (e : Json.ReadError)
  | invalidStem (stem : String)
  | noSchema
  | schemaUnreadable (path : String)
  | schemaInvalid (path : String) (e : CatalogError)
  | requestUnreadable (path : Option String)
  | compilation (d : Dialect) (e : FilterError)
  deriving DecidableEq, Repr

/-- The words for an error of a catalog, from the outermost to the cause. -/
def CatalogError.links : CatalogError → List String
  | unreadable e => "Failed to parse schema catalog" :: e.message?.toList
  | repeatedEntity name => [s!"Entity '{name}' is declared more than once"]

/-- The words for an error of a filter.  They say less when a request is not even JSON. -/
def FilterError.message (e : FilterError) : String :=
  e.message?.getD "Invalid filter request"

/-- The words for an error, from the outermost to the cause. -/
def ProgramError.links : ProgramError → List String
  | configNotFound path => [s!"Config file not found: {path}"]
  | configUnreadable path => [s!"Failed to read config file: {path}"]
  | configInvalid path e => s!"Failed to parse config file: {path}" :: e.message?.toList
  | invalidStem stem =>
    [s!"Invalid parameter prefix '{stem}': must be a non-empty ASCII identifier"]
  | noSchema => ["No schema catalog configured (use --schema, SIEVE_SCHEMA or sieve.json)"]
  | schemaUnreadable path => [s!"Failed to read schema file: {path}"]
  | schemaInvalid path e => s!"Invalid schema file: {path}" :: e.links
  | requestUnreadable (some path) => [s!"Failed to read request file: {path}"]
  | requestUnreadable none => ["Failed to read request from stdin"]
  | compilation d e => [s!"Failed to compile request for {d}", e.message]

def joinLinks (links : List String) : String := ": ".intercalate links

structure Overrides where
  config : Option String := none
  dialect : Option Dialect := none
  stem : Option String := none
  schema : Option String := none
  deriving DecidableEq, Repr

structure Config where
  dialect : Dialect := .sqlite
  stem : String := "p"
  schema : Option String := none
  deriving DecidableEq, Repr

namespace Config

/-- The name of the configuration file that is read when the caller names none. -/
def defaultPath : String := "sieve.json"

/-- A letter of ASCII or an underscore, and then such characters and digits. -/
def isIdentifier (s : String) : Bool :=
  match s.toList with
  | [] => false
  | c :: cs => (c.isAlpha || c == '_') && cs.all fun c => c.isAlphanum || c == '_'

variable {m : Type → Type} [Monad m]

/-- The path of the configuration file, if there is one to read. -/
def findFile (files : Files m) (o : Overrides) : ExceptT ProgramError m (Option String) := do
  match o.config with
  | some path =>
    if ← (files.isPresent path : m Bool) then return some path
    else throw (.configNotFound path)
  | none =>
    if ← (files.isPresent defaultPath : m Bool) then return some defaultPath else return none

/-- Reads a configuration file.  The path of the catalog in it is seen from where the file lies. -/
def readFile (files : Files m) (path : String) : ExceptT ProgramError m FileConfig := do
  match ← (files.read? path : m (Option String)) with
  | none => throw (.configUnreadable path)
  | some text =>
    match FileConfig.ofText text with
    | .error e => throw (.configInvalid path e)
    | .ok c => return { c with schema := c.schema.map (Path.besides path) }

/-- What the caller sets, over what the file says, over the defaults. -/
def layer (o : Overrides) (c : FileConfig) : Config where
  dialect := (o.dialect.or c.dialect).getD .sqlite
  stem := (o.stem.or c.stem).getD "p"
  schema := o.schema.or c.schema

/-- The configuration in force.  Names of parameters must start with an identifier. -/
def load (files : Files m) (o : Overrides) : ExceptT ProgramError m Config := do
  let c ← match ← findFile files o with
    | some path => readFile files path
    | none => pure {}
  let config := layer o c
  if isIdentifier config.stem then return config else throw (.invalidStem config.stem)

def schemaPath (c : Config) : Except ProgramError String :=
  match c.schema with
  | some path => .ok path
  | none => .error .noSchema

/-- The query of a request against the catalog of a configuration. -/
def compile (files : Files m) (c : Config) (request : String) : ExceptT ProgramError m Query := do
  let path ← ExceptT.mk (pure c.schemaPath)
  match ← (files.read? path : m (Option String)) with
  | none => throw (.schemaUnreadable path)
  | some text =>
    match Catalog.ofText text with
    | .error e => throw (.schemaInvalid path e)
    | .ok catalog =>
      match catalog.compileRequest request c.dialect c.stem with
      | .error e => throw (.compilation c.dialect e)
      | .ok query => return query

/-- A line for each dialect, with a mark at the one in force. -/
def listing (c : Config) : String :=
  let line (d : Dialect) := (if d = c.dialect then "* " else "  ") ++ d.name ++ "\n"
  "Sieve dialects:\n" ++ (Dialect.all.map line).foldr (· ++ ·) ""

end Config
end EntityFilter
