import SchemaUpgrade.Yaml.Cursor
import SchemaUpgrade.Yaml.Tag
/-!
# YAML tokens

A YAML text is a sequence of tokens.  Indentation gives rise to tokens without any text, which open
and close the collections of the block style; so does the discovery that a scalar, an alias or a
flow collection was a mapping key.
-/

namespace SchemaUpgrade.Yaml

/-- How a scalar is written. -/
inductive ScalarStyle where
  | plain
  | singleQuoted
  | doubleQuoted
  | literal
  | folded
  deriving DecidableEq, Repr, Inhabited

/-- What a token is. -/
inductive TokenKind where
  | streamEnd
  /-- `%YAML`. -/
  | versionDirective (major minor : Nat)
  /-- `%TAG`. -/
  | tagDirective (handle : String) (front : Tag)
  /-- `---`. -/
  | documentStart
  /-- `...`. -/
  | documentEnd
  | blockSequenceStart
  | blockMappingStart
  | blockEnd
  | flowSequenceStart
  | flowSequenceEnd
  | flowMappingStart
  | flowMappingEnd
  /-- `-`. -/
  | blockEntry
  /-- `,`. -/
  | flowEntry
  /-- A key starts: `?`, or nothing in front of a simple key. -/
  | key
  /-- `:`. -/
  | value
  | alias (name : String)
  | anchor (name : String)
  | tag (handle : String) (suffix : Tag)
  | scalar (text : String) (style : ScalarStyle)
  deriving DecidableEq, Repr, Inhabited

/-- A token and its extent. -/
structure Token where
  kind : TokenKind
  start : Mark
  stop : Mark
  deriving DecidableEq, Repr, Inhabited

/-- A token without any text. -/
def Token.bare (kind : TokenKind) (mark : Mark) : Token := ⟨kind, mark, mark⟩

end SchemaUpgrade.Yaml
