import SchemaUpgrade.Files.Listing
/-!
# Trees of files

A tree holds the files, directories and symbolic links below one directory, its *root*.  A path is
followed from the root, name by name: `.` and an empty name stay where they are, `..` leads one
directory up, and a symbolic link leads on along its target, seen from the directory it stands in.
Nothing is known outside the root, so a path that starts with a slash or leads above the root leads
nowhere.

## Main definitions

* `Tree`: what stands where.
* `Tree.find`: the place that a path leads to, after every link.
* `Tree.put`, `Tree.remove`: changes.
* `Tree.files`: the tree as it is seen from outside.
-/

namespace SchemaUpgrade

/-- What stands at a place of a tree. -/
inductive Leaf where
  | file (bytes : List UInt8)
  | directory
  | link (target : String)
  deriving DecidableEq, Repr, Inhabited

/-- A place: the names that lead to it from the root, none of which is a link. -/
abbrev Place := List String

/-- The places of a tree, in the order in which they were made.  The root is not among them. -/
structure Tree where
  leaves : List (Place × Leaf) := []
  deriving DecidableEq, Repr, Inhabited

namespace Tree

variable (tree : Tree)

/-- What stands at a place. -/
def leaf? (place : Place) : Option Leaf :=
  if place = [] then some .directory else tree.leaves.lookup place

/-- Makes something stand at a place, instead of what stood there. -/
def set (place : Place) (leaf : Leaf) : Tree :=
  if (tree.leaves.lookup place).isSome then
    ⟨tree.leaves.map fun entry => if entry.1 = place then (place, leaf) else entry⟩
  else ⟨tree.leaves ++ [(place, leaf)]⟩

/-! ## Following paths -/

/-- The names of a path. -/
def names (path : String) : List String :=
  path.splitOn "/"

/-- The number of links that may be followed on one path. -/
def maxLinks : Nat := 40

/-- The bytes that a name may have. -/
def maxNameSize : Nat := 255

/-- The bytes that a path may have. -/
def maxPathSize : Nat := 4095

/-- Whether a path, or the target of a link, starts outside of the root. -/
def isAbsolute (path : String) : Bool :=
  path.toList.head? = some '/'

/-- Follows names from the directory `here`, through at most `links` links. -/
def walk (links : Nat) (here : Place) : List String → Except ReadError Place
  | [] => .ok here
  | name :: rest =>
    if name = "" || name = "." then walk links here rest
    else if name = ".." then
      if here = [] then .error .notFound else walk links here.dropLast rest
    else if maxNameSize < name.utf8ByteSize then .error .nameTooLong
    else
      match tree.leaf? (here ++ [name]) with
      | none => .error .notFound
      | some .directory => walk links (here ++ [name]) rest
      | some (.file _) => if rest.isEmpty then .ok (here ++ [name]) else .error .notADirectory
      | some (.link target) =>
        match links with
        | 0 => .error .tooManyLinks
        | links + 1 =>
          if target.isEmpty || isAbsolute target then .error .notFound
          else walk links here (names target ++ rest)
termination_by names => (links, names.length)

/-- The place that a path leads to. -/
def find (path : String) : Except ReadError Place :=
  if path.contains '\x00' then .error .nulInPath
  else if path.isEmpty then .error .notFound
  else if maxPathSize < path.utf8ByteSize then .error .nameTooLong
  else if isAbsolute path then .error .notFound
  else tree.walk maxLinks [] (names path)

/-! ## Changes -/

/-- Puts a leaf where names lead from the directory `here`.  Directories that are missing on the way
are made.  A file is written through a link; a directory that stands there already stays. -/
def putFrom (links : Nat) (tree : Tree) (here : Place) (leaf : Leaf) : List String → Tree
  | [] => tree
  | name :: rest =>
    if name = "" || name = "." then putFrom links tree here leaf rest
    else if name = ".." then putFrom links tree here.dropLast leaf rest
    else
      let place := here ++ [name]
      match tree.leaf? place, leaf with
      | some (.link target), .file _ =>
        match links with
        | 0 => tree
        | links + 1 => putFrom links tree here leaf (names target ++ rest)
      | found, _ =>
        if rest = [] then
          match found, leaf with
          | some .directory, .directory => tree
          | _, _ => tree.set place leaf
        else
          match found with
          | some (.link target) =>
            match links with
            | 0 => tree
            | links + 1 => putFrom links tree here leaf (names target ++ rest)
          | some _ => putFrom links tree place leaf rest
          | none => putFrom links (tree.set place .directory) place leaf rest
termination_by names => (links, names.length)

/-- Puts a leaf at a path. -/
def put (path : String) (leaf : Leaf) : Tree :=
  putFrom maxLinks tree [] leaf (names path)

/-- Removes what a path names, a link rather than what it leads to, and everything below it. -/
def remove (path : String) : Tree :=
  let parts := (names path).filter fun name => name ≠ "" ∧ name ≠ "."
  match tree.walk maxLinks [] parts.dropLast, parts.getLast? with
  | .ok parent, some name =>
    ⟨tree.leaves.filter fun entry => ¬ (parent ++ [name]).isPrefixOf entry.1⟩
  | _, _ => tree

/-! ## The view from outside -/

/-- The bytes of the file at a path. -/
def read (path : String) : Except ReadError (List UInt8) :=
  match tree.find path with
  | .error error => .error error
  | .ok place =>
    match tree.leaf? place with
    | some (.file bytes) => .ok bytes
    | some .directory => .error .isADirectory
    | _ => .error .notFound

/-- The entries directly below a place. -/
def below (place : Place) : List DirectoryEntry :=
  tree.leaves.filterMap fun (there, leaf) =>
    match there.getLast? with
    | some name =>
      if there.dropLast = place then
        some ⟨name, match leaf with | .file _ => true | _ => false⟩
      else none
    | none => none

/-- The entries of the directory at a path. -/
def entries (path : String) : Except ReadError (List DirectoryEntry) :=
  match tree.find path with
  | .error error => .error error
  | .ok place =>
    match tree.leaf? place with
    | some .directory => .ok (tree.below place)
    | some _ => .error .notADirectory
    | none => .error .notFound

/-- The tree as a file system. -/
def files : Files where
  isPresent path := match tree.find path with | .ok _ => true | .error _ => false
  read := tree.read
  entries := tree.entries

end Tree

end SchemaUpgrade
