/-!
Access to files, and a directory in memory that gives such access without any effect.
-/

namespace EntityFilter

/-- What the program asks of files: whether there is anything at a path, and the text of the file
there, if it can be read. -/
structure Files (m : Type → Type) where
  isPresent : String → m Bool
  read? : String → m (Option String)

/-- A directory in memory: its files with their paths, each as its components. -/
structure Directory where
  files : List (List String × String)
  deriving DecidableEq, Repr

namespace Directory

/-- What a path leads to: a file, a folder inside the directory, or a folder that many levels above
it. -/
inductive Entry where
  | file (text : String)
  | folder (path : List String)
  | above (levels : Nat)
  deriving DecidableEq, Repr

def isIdle (component : String) : Bool := component.isEmpty || component == "."

def ofFiles (files : List (String × String)) : Directory :=
  ⟨files.map fun (path, text) => ((path.splitOn "/").filter (!isIdle ·), text)⟩

/-- The file or folder of a path inside the directory. -/
def entry? (d : Directory) (path : List String) : Option Entry :=
  match d.files.lookup path with
  | some text => some (.file text)
  | none => if d.files.any fun f => path.isPrefixOf f.1 then some (.folder path) else none

/-- Where a component leads from an entry.  Nothing lies in a file, and nothing above the directory
has a known name. -/
def step (d : Directory) (component : String) : Entry → Option Entry
  | .file _ => none
  | .folder path =>
    if isIdle component then some (.folder path)
    else if component = ".." then
      some (if path.isEmpty then .above 1 else .folder path.dropLast)
    else d.entry? (path ++ [component])
  | .above levels =>
    if isIdle component then some (.above levels)
    else if component = ".." then some (.above (levels + 1))
    else none

def find? (d : Directory) (path : String) : Option Entry :=
  if path.isEmpty then none
  else
    let start := if path.toList.head? = some '/' then Entry.above 0 else .folder []
    (path.splitOn "/").foldlM (fun e component => d.step component e) start

/-- The text of the file at a path. -/
def read? (d : Directory) (path : String) : Option String :=
  match d.find? path with
  | some (.file text) => some text
  | _ => none

def access (d : Directory) : Files Id where
  isPresent path := (d.find? path).isSome
  read? path := d.read? path

end Directory
end EntityFilter
