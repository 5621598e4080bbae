import EntityFilter.CommandLine.Environment
import EntityFilter.CommandLine.Format
import EntityFilter.Config.Basic

/-!
The arguments of the program.  Options may stand before the command or behind it, those behind it
win, and both win over the environment.  No option occurs twice in one of the two places.
-/

namespace EntityFilter

inductive OptionName where
  | config
  | dialect
  | stem
  | schema
  | request
  | format
  deriving DecidableEq, Repr

/-- The values of options, as far as they are given. -/
structure OptionValues where
  config : Option String := none
  dialect : Option Dialect := none
  stem : Option String := none
  schema : Option String := none
  request : Option String := none
  format : Option Format := none
  deriving DecidableEq, Repr

namespace OptionValues

def setOnce {α : Type} (old new : Option α) : Option (Option α) :=
  match old, new with
  | none, some a => some (some a)
  | _, _ => none

/-- The path that a text is; it is not empty. -/
def path? (text : String) : Option String := if text.isEmpty then none else some text

/-- The values with one more, if the option has none yet and the text is a value of it. -/
def set? (v : OptionValues) (name : OptionName) (text : String) : Option OptionValues :=
  match name with
  | .config => (setOnce v.config (path? text)).map fun x => { v with config := x }
  | .dialect => (setOnce v.dialect (Dialect.ofName? text)).map fun x => { v with dialect := x }
  | .stem => (setOnce v.stem (some text)).map fun x => { v with stem := x }
  | .schema => (setOnce v.schema (path? text)).map fun x => { v with schema := x }
  | .request => (setOnce v.request (path? text)).map fun x => { v with request := x }
  | .format => (setOnce v.format (Format.ofName? text)).map fun x => { v with format := x }

def isSet (v : OptionValues) : OptionName → Bool
  | .config => v.config.isSome
  | .dialect => v.dialect.isSome
  | .stem => v.stem.isSome
  | .schema => v.schema.isSome
  | .request => v.request.isSome
  | .format => v.format.isSome

/-- The values, and those of `w` for options without one. -/
def orElse (v w : OptionValues) : OptionValues where
  config := v.config.or w.config
  dialect := v.dialect.or w.dialect
  stem := v.stem.or w.stem
  schema := v.schema.or w.schema
  request := v.request.or w.request
  format := v.format.or w.format

end OptionValues

inductive CommandName where
  | compile
  | dialects
  deriving DecidableEq, Repr

/-- A place for options: before the command, or behind it. -/
inductive Level where
  | before
  | behind (command : CommandName)
  deriving DecidableEq, Repr

inductive Stop where
  | usage
  | help
  | version
  deriving DecidableEq, Repr

namespace Level

/-- The options of every place, each with its long name, its letter and its variable. -/
def sharedOptions : List (String × Option Char × String × OptionName) := [
  ("config", some 'c', "SIEVE_CONFIG", .config),
  ("dialect", some 'd', "SIEVE_DIALECT", .dialect),
  ("param-prefix", none, "SIEVE_PARAM_PREFIX", .stem),
  ("schema", some 's', "SIEVE_SCHEMA", .schema)]

/-- The long names of the options of a place. -/
def longNames (level : Level) : List (String × OptionName) :=
  sharedOptions.map (fun o => (o.1, o.2.2.2)) ++
    match level with
    | .behind .compile => [("request", .request), ("format", .format)]
    | _ => []

/-- The letters of the options of a place. -/
def letters (level : Level) : List (Char × OptionName) :=
  sharedOptions.filterMap (fun o => o.2.1.map fun c => (c, o.2.2.2)) ++
    match level with
    | .behind .compile => [('r', .request), ('f', .format)]
    | _ => []

def variableNames : List (String × OptionName) := sharedOptions.map fun o => (o.2.2.1, o.2.2.2)

end Level

inductive ArgumentForm where
  /-- Two hyphens alone. -/
  | separator
  /-- Two hyphens and a name, and what stands behind the first equals sign. -/
  | long (name : String) (value : Option String)
  /-- A hyphen and a letter, and what stands behind it. -/
  | letter (c : Char) (rest : List Char)
  /-- Any other text, a lone hyphen included. -/
  | plain (text : String)
  deriving DecidableEq, Repr

namespace ArgumentForm

def ofText (text : String) : ArgumentForm :=
  match text.toList with
  | ['-', '-'] => separator
  | '-' :: '-' :: cs =>
    let name := cs.takeWhile (· ≠ '=')
    match cs.drop name.length with
    | [] => long (String.ofList name) none
    | _ :: value => long (String.ofList name) (some (String.ofList value))
  | '-' :: c :: cs => letter c cs
  | _ => plain text

/-- The value behind a letter, if there is one; an equals sign may stand before it. -/
def attached? : List Char → Option String
  | [] => none
  | '=' :: cs => some (String.ofList cs)
  | cs => some (String.ofList cs)

/-- What an argument asks for: the value of an option is in the argument or in the next one. -/
inductive Demand where
  | option (name : OptionName) (value : Option String)
  | stop (s : Stop)
  | text (s : String)
  | nothingMore
  deriving DecidableEq, Repr

/-- What an argument asks for at a place. -/
def demand (level : Level) : ArgumentForm → Demand
  | separator => .nothingMore
  | plain text => .text text
  | long name value =>
    match level.longNames.lookup name with
    | some o => .option o value
    | none =>
      if value.isSome then .stop .usage
      else if name = "help" then .stop .help
      else if name = "version" ∧ level = .before then .stop .version
      else .stop .usage
  | letter c rest =>
    match level.letters.lookup c with
    | some o => .option o (attached? rest)
    | none =>
      if c = 'h' then .stop .help
      else if c = 'V' ∧ level = .before then .stop .version
      else .stop .usage

end ArgumentForm

/-- An option and a value that has not been looked at yet. -/
abbrev PendingOption := Option (OptionName × String)

/-- The values with a pending one, if that is in order. -/
def OptionValues.settle (v : OptionValues) : PendingOption → Except Stop OptionValues
  | none => .ok v
  | some (name, text) =>
    match v.set? name text with
    | some v => .ok v
    | none => .error .usage

/-- What has been read at a place: values, perhaps one that is still pending, and the text that
stands where a command may stand, with the arguments behind it. -/
structure LevelReading where
  values : OptionValues
  pending : PendingOption
  command : Option (String × List String)
  deriving DecidableEq, Repr

/-- Reads the arguments at a place, up to the first that belongs to no option.  The value of an
option that is an argument of its own is looked at when the next option comes. -/
def readLevel (level : Level) (v : OptionValues) (pending : PendingOption) :
    List String → Except Stop LevelReading
  | [] => .ok ⟨v, pending, none⟩
  | arg :: rest =>
    match (ArgumentForm.ofText arg).demand level with
    | .text text => .ok ⟨v, pending, some (text, rest)⟩
    | .nothingMore => if rest.isEmpty then .ok ⟨v, pending, none⟩ else .error .usage
    | .stop s => do
      let _ ← v.settle pending
      throw s
    | .option name (some text) => do
      let v ← v.settle pending
      let v ← v.settle (some (name, text))
      readLevel level v none rest
    | .option name none => do
      let v ← v.settle pending
      match rest with
      | [] => throw .usage
      | text :: rest =>
        match ArgumentForm.ofText text with
        | .plain text => readLevel level v (some (name, text)) rest
        | _ => throw .usage

/-- The values that the environment gives to options.  Each must be in order unless every place
has a value for its option. -/
def environmentValues (e : Environment) (isNeeded : OptionName → Bool) :
    Except Stop OptionValues :=
  Level.variableNames.foldlM (fun v (key, name) =>
    match e.lookup key with
    | none => .ok v
    | some text =>
      match v.set? name text with
      | some v => .ok v
      | none => if isNeeded name then .error .usage else .ok v) {}

inductive Command where
  | compile (request : String) (format : Format)
  | dialects
  deriving DecidableEq, Repr

structure Invocation where
  overrides : Overrides
  command : Command
  deriving DecidableEq, Repr

namespace Invocation

def stdinPath : String := "-"

def commandNames : List (String × CommandName) := [("compile", .compile), ("dialects", .dialects)]

/-- What comes of the command that explains commands. -/
def help : List String → Stop
  | [] => .help
  | ["help"] => .help
  | [name] => if (commandNames.lookup name).isSome then .help else .usage
  | _ => .usage

def ofArguments (e : Environment) (args : List String) : Except Stop Invocation := do
  let before ← readLevel .before {} none args
  match before.command with
  | none => throw .usage
  | some (name, rest) =>
    if name = "help" then throw (help rest)
    match commandNames.lookup name with
    | none => throw .usage
    | some command => do
      let behind ← readLevel (.behind command) {} none rest
      if behind.command.isSome then throw .usage
      let inner ← behind.values.settle behind.pending
      let outer ← before.values.settle before.pending
      let given ← environmentValues e fun o => !(inner.isSet o && outer.isSet o)
      let v := (inner.orElse outer).orElse given
      return {
        overrides := ⟨v.config, v.dialect, v.stem, v.schema⟩
        command := match command with
          | .compile => .compile (v.request.getD stdinPath) (v.format.getD .sql)
          | .dialects => .dialects }

end Invocation
end EntityFilter
