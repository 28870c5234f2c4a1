import SchemaUpgrade.Files.ReadError
/-!
# Files as they are seen from outside

A file system is known by what it answers: whether a path leads to something, the bytes of a file,
and the entries of a directory.  Paths are plain texts; `joinPath` puts a relative one below
another.

A directory is listed as a whole or not at all: a listing that breaks off after some of its entries,
or an entry whose kind cannot be told, is no answer of these files.
-/

namespace SchemaUpgrade

/-- The path `right` seen from `left`.  An absolute `right` stands for itself; otherwise one slash
stands between the two, unless `left` is empty or ends with one.  Nothing is normalised. -/
def joinPath (left right : String) : String :=
  if right.toList.head? = some '/' then right
  else if left.isEmpty || left.toList.getLast? = some '/' then left ++ right
  else left ++ "/" ++ right

/-- An entry of a directory. -/
structure DirectoryEntry where
  name : String
  /-- Whether the entry itself is a regular file: no directory and no symbolic link. -/
  isRegular : Bool
  deriving DecidableEq, Repr, Inhabited

/-- What a file system answers. -/
structure Files where
  /-- Whether a path leads to a file or a directory. -/
  isPresent : String → Bool
  /-- The bytes of the file at a path. -/
  read : String → Except ReadError (List UInt8)
  /-- The entries of the directory at a path, in any order. -/
  entries : String → Except ReadError (List DirectoryEntry)

/-- The file system in which nothing is found. -/
def Files.none : Files where
  isPresent _ := false
  read _ := .error .notFound
  entries _ := .error .notFound

instance : Inhabited Files := ⟨Files.none⟩

end SchemaUpgrade
