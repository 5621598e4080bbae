/-!
Paths of files, as texts with slashes.  Joining keeps both parts as they are written; a parent is
what is left of a path without its last component.
-/

namespace EntityFilter.Path

def isAbsolute (path : String) : Bool := path.toList.head? == some '/'

/-- A path, read from its end, without slashes and dots at the end that name nothing.  The root and
a leading dot stay. -/
def dropEmptyEnd : List Char → List Char
  | [] => []
  | c :: rest =>
    if c = '/' then (if rest.isEmpty then [c] else dropEmptyEnd rest)
    else if c = '.' ∧ rest.head? = some '/' then dropEmptyEnd rest
    else c :: rest

/-- The directory that a path lies in; it is empty for a path of one component, and there is none
for the root and the empty path. -/
def parent? (path : String) : Option String :=
  let cs := dropEmptyEnd path.toList.reverse
  if cs.isEmpty ∨ cs = ['/'] then none
  else some (String.ofList (dropEmptyEnd (cs.dropWhile (· ≠ '/'))).reverse)

def join (directory path : String) : String :=
  if directory.toList.getLast? = some '/' then directory ++ path else directory ++ "/" ++ path

/-- A path that a file mentions: an absolute one stays, any other lies in the file's directory. -/
def besides (file path : String) : String :=
  if isAbsolute path then path
  else
    match parent? file with
    | some directory => if directory.isEmpty then path else join directory path
    | none => path

end EntityFilter.Path
