import EntityFilter.Filter.Field
import EntityFilter.Text.Blank

/-!
Free-text filters: a search for words in several text columns, together with a field filter.
-/

namespace EntityFilter

/-- A search for words.  The base states further demands on the same rows. -/
structure FreeTextFilter where
  base : FieldFilter
  searchFields : FieldSet := {}
  terms : Option String := none
  emitted : Bool := false
  deriving DecidableEq, Inhabited

namespace FreeTextFilter

def new (e : Entity) : FreeTextFilter := { base := .new e }

def setTerms (f : FreeTextFilter) (terms : String) : FreeTextFilter :=
  { f with terms := some terms }

def addField (f : FreeTextFilter) (name : String) : Except FilterError FreeTextFilter := do
  let field ← f.base.resolve name
  if field.kind.isTextual then return { f with searchFields := f.searchFields.add field }
  else throw (.unsupportedFieldKind field.name field.kind .freeTextSearch)

def addAllTextFields (f : FreeTextFilter) : FreeTextFilter :=
  { f with searchFields := f.searchFields.addAll f.base.entity.textFields }

/-- The words to search for, if there are any but blanks. -/
def searchTerms? (f : FreeTextFilter) : Option String :=
  f.terms.filter fun t => !Text.isAllBlank t

/-- The predicate that a column matches the words, which are the first value. -/
def predicate (d : Dialect) (field : Field) : List Piece :=
  let (before, between, after) := d.freeTextParts
  [.text (before ++ d.identifier field.nativeName ++ between), .hole 0, .text after]

/-- The condition that any of the columns matches the words.  The words are bound once. -/
def searchClause (d : Dialect) (fields : List Field) (terms : String) : Clause :=
  let separator := Piece.text (" " ++ d.orKeyword ++ " ")
  ⟨[separator].intercalate (fields.map (predicate d)), [(.text, .text terms)]⟩

/-- The condition of a filter with the given words: the search, and the base if it demands
anything. -/
def clause (f : FreeTextFilter) (d : Dialect) (terms : String) : Clause :=
  let base := f.base.clause d
  let search := searchClause d f.searchFields.fields terms
  if base.isEmpty then search
  else .text "(" ++ base ++ .text (") " ++ d.andKeyword ++ " (") ++ search ++ .text ")"

def emit : Appending FreeTextFilter Unit := do
  let (f, s) ← get
  if f.emitted then throw .alreadyEmitted
  match f.searchTerms? with
  | none => throw .missingSearchTerms
  | some terms =>
    let d ← Appending.check s.requireDialect
    if f.searchFields.isEmpty then throw .noSearchableFields
    Appending.check f.base.validate
    let e ← Appending.check s.begin
    set (f, e.commitClause (f.clause d terms))
    modify fun (f, s) => ({ f with emitted := true }, s)

/-- Appends a filter to a statement.  A filter is appended once, whether its base is or not. -/
def append (f : FreeTextFilter) (s : Statement) : Appended FreeTextFilter := emit.on f s

end FreeTextFilter
end EntityFilter
