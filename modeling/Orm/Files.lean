import Orm.Data.NameMap

/-!
# Files

A `FileStore` says for every location whether a directory, a file or a symbolic link is there, and
what may be done with it. `FileStore.place` follows a path from the root or from the working
directory; `FileStore.read` and `FileStore.write` then read or write the file at its end. Each step
and each access can fail with the cause that the operating system reports.
-/

namespace Orm

/-- Why a path cannot be read or written. -/
inductive FileError
  | notFound
  | permissionDenied
  | notDirectory
  | isDirectory
  | nameTooLong
  | tooManyLinks
  | notText
  | nulByte
deriving DecidableEq, Repr

/-- The text of a file error. -/
def FileError.message : FileError → String
  | .notFound => "No such file or directory (os error 2)"
  | .permissionDenied => "Permission denied (os error 13)"
  | .notDirectory => "Not a directory (os error 20)"
  | .isDirectory => "Is a directory (os error 21)"
  | .nameTooLong => "File name too long (os error 36)"
  | .tooManyLinks => "Too many levels of symbolic links (os error 40)"
  | .notText => "stream did not contain valid UTF-8"
  | .nulByte => "file name contained an unexpected NUL byte"

/-- What may be done with a file or directory: nothing, to read it or to pass through it, or also to
write it or to add files to it. -/
inductive FileAccess
  | none
  | readOnly
  | full
deriving DecidableEq, Repr

/-- The names on the way from the root to a directory or file, the last one first. -/
abbrev FileLocation := List String

/-- What is at a location. A file without content is one that holds no text, and the target of a
symbolic link is a path. -/
inductive FileNode
  | directory (access : FileAccess)
  | file (access : FileAccess) (content : Option String)
  | link (target : String)
deriving DecidableEq, Repr

/-- What is at each location, and the location of the directory from which relative paths start. -/
structure FileStore where
  nodeAt : FileLocation → Option FileNode
  working : FileLocation

/-- What a path leads to: a directory, or the location of a file that need not exist. With a slash
behind it a file, there or not, cannot be what a path means. -/
inductive FilePlace
  | directory (location : FileLocation)
  | file (location : FileLocation)
  | slashed (isThere : Bool)
deriving DecidableEq, Repr

/-- A step along a path ends at a place, or at a symbolic link in a directory. -/
inductive PathStep
  | reached (place : FilePlace)
  | link (directory : FileLocation) (target : String)
deriving DecidableEq, Repr

/-- The greatest size of the name of a file in bytes. -/
abbrev greatestNameSize : Nat := 255

/-- The greatest size of a path in bytes. -/
abbrev greatestPathSize : Nat := 4095

/-- The greatest number of symbolic links that are followed on the way along a path. -/
abbrev greatestLinkCount : Nat := 40

/-- The parts of a path between its slashes. -/
def splitPath (current : List Char) : List Char → List String
  | [] => [String.ofList current.reverse]
  | c :: rest =>
      if c = '/' then String.ofList current.reverse :: splitPath [] rest
      else splitPath (c :: current) rest

/-- The names on a path. An empty one at the end stands for a slash there. -/
def pathNames (path : String) : List String :=
  let parts := splitPath [] path.toList
  parts.filter (· ≠ "") ++ if parts.getLast? = some "" then [""] else []

/-- Where a path starts: at the root or in a directory. -/
def pathStart (directory : FileLocation) (path : String) : FilePlace :=
  .directory (if path.toList.head? = some '/' then [] else directory)

namespace FileStore

/-- The store with nothing but the root and an empty working directory in it. -/
def empty : FileStore where
  nodeAt := fun location =>
    if location = [] ∨ location = ["start"] then some (.directory .full) else none
  working := ["start"]

/-- Whether a file is at a location. -/
def hasFile (files : FileStore) (location : FileLocation) : Bool :=
  match files.nodeAt location with
  | some (.file _ _) => true
  | some (.directory _) | some (.link _) | none => false

/-- Where a name in a directory leads. -/
def arrive (files : FileStore) (directory : FileLocation) (name : String) : PathStep :=
  match files.nodeAt (name :: directory) with
  | some (.directory _) => .reached (.directory (name :: directory))
  | some (.link target) => .link directory target
  | some (.file _ _) | none => .reached (.file (name :: directory))

/-- One step along a path. Only from a directory that may be passed through is there a further step:
a single dot leads nowhere else, two dots lead up, and a name leads to what has it. -/
def step (files : FileStore) : FilePlace → String → Except FileError PathStep
  | .slashed isThere, name =>
      if name = "" then .ok (.reached (.slashed isThere))
      else .error (if isThere then .notDirectory else .notFound)
  | .file location, name =>
      if name = "" then .ok (.reached (.slashed (files.hasFile location)))
      else .error (if files.hasFile location then .notDirectory else .notFound)
  | .directory location, name =>
      if name = "" then .ok (.reached (.directory location))
      else match files.nodeAt location with
        | some (.directory .none) => .error .permissionDenied
        | some (.directory _) =>
            if name = "." then .ok (.reached (.directory location))
            else if name = ".." then .ok (.reached (.directory location.tail))
            else if greatestNameSize < name.utf8ByteSize then .error .nameTooLong
            else .ok (files.arrive location name)
        | some (.file _ _) => .error .notDirectory
        | some (.link _) | none => .error .notFound

/-- Steps along a path, one after the other. What is left of it behind a symbolic link is for
`follow`. -/
def walk (files : FileStore)
    (follow : FileLocation → String → List String → Except FileError FilePlace) :
    FilePlace → List String → Except FileError FilePlace
  | place, [] => .ok place
  | place, name :: rest => do
      match ← files.step place name with
      | .reached next => walk files follow next rest
      | .link directory target => follow directory target rest

/-- What a path from a directory leads to once some names behind it are followed as well. At most
`paths` paths are followed, as each symbolic link on the way has one of its own. -/
def follow (files : FileStore) :
    Nat → FileLocation → String → List String → Except FileError FilePlace
  | 0, _, _, _ => .error .tooManyLinks
  | paths + 1, directory, path, rest =>
      if path.isEmpty then .error .notFound
      else files.walk (follow files paths) (pathStart directory path) (pathNames path ++ rest)

/-- What a path leads to. -/
def place (files : FileStore) (path : String) : Except FileError FilePlace :=
  if path.toList.any fun c => c.toNat = 0 then .error .nulByte
  else if greatestPathSize < path.utf8ByteSize then .error .nameTooLong
  else files.follow (greatestLinkCount + 1) files.working path []

/-- Whether a path leads to a file or directory. -/
def pathExists (files : FileStore) (path : String) : Bool :=
  match files.place path with
  | .ok (.directory _) => true
  | .ok (.file location) => files.hasFile location
  | .ok (.slashed _) | .error _ => false

/-- The text of the file at a path. -/
def read (files : FileStore) (path : String) : Except FileError String := do
  match ← files.place path with
  | .directory location =>
      throw (if files.nodeAt location = some (.directory .none) then .permissionDenied
        else .isDirectory)
  | .slashed isThere => throw (if isThere then .notDirectory else .notFound)
  | .file location =>
      match files.nodeAt location with
      | some (.file .none _) => throw .permissionDenied
      | some (.file _ (some text)) => return text
      | some (.file _ none) => throw .notText
      | some (.directory _) | some (.link _) | none => throw .notFound

/-- Whether a file at a location may be written. A new one may if files may be added to its
directory. -/
def admits (files : FileStore) (location : FileLocation) : Bool :=
  match files.nodeAt location with
  | some (.file access _) => access = .full
  | some (.directory _) | some (.link _) | none =>
      files.nodeAt location.tail = some (.directory .full)

/-- The store with a text in the file at a location. -/
def put (files : FileStore) (location : FileLocation) (text : String) : FileStore :=
  { files with
    nodeAt := fun other =>
      if other = location then some (.file .full (some text)) else files.nodeAt other }

/-- The store with a text at a path, in place of what was there. -/
def write (files : FileStore) (path text : String) : Except FileError FileStore := do
  match ← files.place path with
  | .directory _ | .slashed _ => throw .isDirectory
  | .file location =>
      if files.admits location then return files.put location text else throw .permissionDenied

/-- A working directory with some texts under their names. -/
def ofTexts (texts : NameMap String) : FileStore :=
  texts.toList.foldl (fun files entry => files.put (entry.1 :: files.working) entry.2) empty

end FileStore

end Orm
