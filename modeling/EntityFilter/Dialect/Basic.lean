import EntityFilter.Dialect.Quoting
import EntityFilter.Kind
import EntityFilter.Text.Caseless

/-!
The dialects of SQL that statements are written in, and all in which they differ: quoted
identifiers, parameter markers, free-text predicates, escapes in patterns and boolean literals.
-/

namespace EntityFilter

inductive Dialect where
  | sqlite
  | postgres
  | duckdb
  | clickhouse
  | mssql
  | mysql
  deriving DecidableEq, Repr

/-- The place of a parameter in a statement: its name, its number from one on and its kind. -/
structure Parameter where
  name : String
  ordinal : Nat
  kind : Kind
  deriving DecidableEq, Repr

namespace Dialect

/-- Every dialect, in the order in which dialects are listed. -/
def all : List Dialect := [sqlite, postgres, duckdb, clickhouse, mssql, mysql]

instance : Inhabited Dialect := ⟨sqlite⟩

def name : Dialect → String
  | sqlite => "sqlite"
  | postgres => "postgres"
  | duckdb => "duckdb"
  | clickhouse => "clickhouse"
  | mssql => "mssql"
  | mysql => "mysql"

instance : ToString Dialect := ⟨name⟩

def named : List (String × Dialect) := all.map fun d => (d.name, d)

/-- The dialects under their names and second names. -/
def aliases : List (String × Dialect) :=
  named ++ [("postgresql", postgres), ("sqlserver", mssql)]

/-- The dialect of a name or second name, in any case. -/
def ofName? (s : String) : Option Dialect := aliases.lookup (Text.lower s)

/-- The words for a name that no dialect has. -/
def unknownNameMessage (s : String) : String :=
  s!"Invalid dialect '{s}'. Valid options: " ++ ", ".intercalate (all.map name)

def andKeyword (_ : Dialect) : String := "AND"

def orKeyword (_ : Dialect) : String := "OR"

def notKeyword (_ : Dialect) : String := "NOT"

def quoting : Dialect → Quoting
  | sqlite | postgres | duckdb => ⟨'"', '"'⟩
  | clickhouse | mysql => ⟨'\x60', '\x60'⟩
  | mssql => ⟨'[', ']'⟩

def identifier (d : Dialect) (nativeName : String) : String := d.quoting.write nativeName

/-- The type that a marker of ClickHouse names. -/
def markerType (k : Kind) : String :=
  match k with
  | .text | .fixedText | .ansiText | .ansiFixedText | .binary => "String"
  | .integer => "Int64"
  | .decimal => "Decimal128(9)"
  | .float => "Float64"
  | .boolean => "Bool"
  | .date => "Date"
  | .dateTime => "DateTime64(6)"
  | .guid => "UUID"

/-- The marker that stands for a parameter.  The same marker may occur several times. -/
def marker (d : Dialect) (p : Parameter) : String :=
  match d with
  | sqlite => s!"?{p.ordinal}"
  | postgres | duckdb => s!"${p.ordinal}"
  | clickhouse => "\x7b" ++ p.name ++ ":" ++ markerType p.kind ++ "\x7d"
  | mssql | mysql => s!"@{p.name}"

/-- What stands before, between and after the column and the marker of a free-text predicate. -/
def freeTextParts : Dialect → String × String × String
  | postgres => ("to_tsvector(", ") @@ plainto_tsquery(", ")")
  | _ => ("FREETEXT(", ", ", ")")

/-- The predicate that a column matches the words of a parameter. -/
def freeText (d : Dialect) (column marker : String) : String :=
  let (before, between, after) := d.freeTextParts
  before ++ column ++ between ++ marker ++ after

/-- Whether the free-text predicate is part of the dialect; elsewhere it is a function that users
define. -/
def hasFreeText : Dialect → Bool
  | postgres | mssql => true
  | _ => false

/-- What follows a pattern to make the backslash its escape character. -/
def likeEscape : Dialect → String
  | clickhouse => ""
  | mysql => " ESCAPE '\\\\'"
  | _ => " ESCAPE '\\'"

def boolLiteral (d : Dialect) (b : Bool) : String :=
  match d with
  | sqlite | mssql => if b then "1" else "0"
  | clickhouse => if b then "true" else "false"
  | postgres | duckdb | mysql => if b then "TRUE" else "FALSE"

end Dialect
end EntityFilter
