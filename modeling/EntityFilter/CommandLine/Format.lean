import EntityFilter.Statement.Basic
import EntityFilter.Value.Json

/-!
How queries are printed: as a script of SQL with a comment for each parameter, or as JSON.
-/

namespace EntityFilter

inductive Format where
  | sql
  | json
  deriving DecidableEq, Repr, Inhabited

namespace Format

/-- The format of a name, in any case. -/
def ofName? (s : String) : Option Format :=
  [("sql", sql), ("json", json)].lookup (Text.lower s)

end Format

def Binding.comment (b : Binding) : String := s!"\n-- {b.name} ({b.kind}) = {b.value.display}"

def Binding.toJson (b : Binding) : Json :=
  .object [("name", .string b.name), ("kind", .string b.kind.name), ("value", b.value.toJson)]

namespace Query

def toJson (q : Query) : Json :=
  .object [("sql", .string q.sql), ("parameters", .array (q.parameters.map Binding.toJson))]

/-- The script of a query: its text, and a comment for each parameter. -/
def script (q : Query) : String :=
  q.sql ++ ";" ++ (q.parameters.map Binding.comment).foldr (· ++ ·) ""

/-- The text of a query in a format. -/
def render (q : Query) : Format → String
  | .sql => q.script
  | .json => q.toJson.pretty

end Query
end EntityFilter
