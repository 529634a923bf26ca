import Orm.Files
import Orm.Json.Reading
import Orm.Schema.Cache
import Orm.Schema.Document

/-!
# Schema caches in files

A cache is saved as the indented JSON document of its snapshot. A cache that is loaded from a file
is offline. `mergeCacheFiles` writes the union of two saved caches and reports what happened.
-/

namespace Orm

/-- Why a saved cache cannot be read or written. -/
inductive CacheError
  | io (path : String) (cause : FileError)
  | malformed (path : String)
deriving DecidableEq, Repr

/-- The text of a cache error. -/
def CacheError.message : CacheError → String
  | .io path cause => s!"schema cache io at {path}: " ++ cause.message
  | .malformed path => s!"schema cache json at {path}"

namespace SchemaSnapshot

/-- The text of the file that holds a snapshot. -/
def fileText (snapshot : SchemaSnapshot) : String := snapshot.toJson.pretty

/-- The snapshot that a text holds. -/
def ofFileText? (text : String) : Option SchemaSnapshot :=
  (Json.read? text).bind SchemaSnapshot.ofJson?

/-- The snapshot in the file at a path. -/
def readFile (files : FileStore) (path : String) : Except CacheError SchemaSnapshot :=
  match files.read path with
  | .error cause => .error (.io path cause)
  | .ok text =>
      match ofFileText? text with
      | some snapshot => .ok snapshot
      | none => .error (.malformed path)

/-- The files with a snapshot at a path. -/
def writeFile (files : FileStore) (path : String) (snapshot : SchemaSnapshot) :
    Except CacheError FileStore :=
  match files.write path snapshot.fileText with
  | .error cause => .error (.io path cause)
  | .ok files => .ok files

end SchemaSnapshot

namespace SchemaCache

/-- The files with the contents of a cache at a path. -/
def save (cache : SchemaCache) (files : FileStore) (path : String) :
    Except CacheError FileStore :=
  cache.snapshot.writeFile files path

/-- The cache that is saved at a path; it never asks the live catalog. -/
def load (files : FileStore) (path : String) : Except CacheError SchemaCache :=
  (SchemaSnapshot.readFile files path).map fun snapshot =>
    ofSnapshot { snapshot with isOffline := true }

end SchemaCache

/-- Merges the caches saved at two paths into a third one. The result is the message that reports
the outcome and the files afterwards. -/
def mergeCacheFiles (files : FileStore) (first second target : String) : String × FileStore :=
  match [first, second].find? fun path => !files.pathExists path with
  | some missing => (s!"schema cache file not found: {missing}", files)
  | none =>
      let merged : Except CacheError (SchemaSnapshot × FileStore) := do
        let one ← SchemaSnapshot.readFile files first
        let two ← SchemaSnapshot.readFile files second
        let merged := one.merge two
        return (merged, ← merged.writeFile files target)
      match merged with
      | .ok (snapshot, written) =>
          let count := snapshot.tables.size
          (s!"merged {first} and {second} into {target} ({count} tables)", written)
      | .error error => ("schema cache merge failed: " ++ error.message, files)

end Orm
