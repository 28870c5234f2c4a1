import SchemaUpgrade.Files.Tree
import SchemaUpgrade.Text.Lines
/-!
# Bundles of files

A bundle holds files one after the other.  Each is told by a line with the number of its bytes, a
space and its path, and then come exactly that many bytes.  `Tree.ofBundle` is the tree that a
bundle holds; it is `none` if the bundle ends too early or a line cannot be read.
-/

namespace SchemaUpgrade

/-- The line in front of a file of a bundle. -/
structure BundleHeader where
  size : Nat
  path : String
  deriving DecidableEq, Repr, Inhabited

/-- Reads the line in front of a file. -/
def BundleHeader.ofLine? (line : String) : Option BundleHeader :=
  match line.toList.span (· ≠ ' ') with
  | (digits, _ :: path) =>
    (String.ofList digits).toNat?.map fun size => { size, path := String.ofList path }
  | _ => none

/-- Takes the first file of a bundle, and answers the bytes behind it. -/
def takeBundled? (bytes : List UInt8) : Option (BundleHeader × List UInt8 × List UInt8) := do
  let line := bytes.takeWhile (· ≠ Text.lineFeed)
  let rest := bytes.drop (line.length + 1)
  let header ← BundleHeader.ofLine? (← Text.decodeUtf8 line)
  if rest.length < header.size then none
  else some (header, rest.take header.size, rest.drop header.size)

/-- Puts the files of a bundle into a tree.  Every file takes at least one byte of the bundle, so
there are no more files than bytes. -/
def Tree.addBundled : (files : Nat) → Tree → List UInt8 → Option Tree
  | _, tree, [] => some tree
  | 0, _, _ => none
  | files + 1, tree, bytes => do
    let (header, content, rest) ← takeBundled? bytes
    (tree.put header.path (.file content)).addBundled files rest
termination_by files => files

/-- The tree of the files in a bundle. -/
def Tree.ofBundle (bytes : List UInt8) : Option Tree :=
  Tree.addBundled bytes.length {} bytes

end SchemaUpgrade
