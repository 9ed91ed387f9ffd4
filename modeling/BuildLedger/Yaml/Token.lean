import BuildLedger.Yaml.Cursor

/-!
# Tokens of YAML text

The marks that structure a text, and the scalars between them.
-/
namespace BuildLedger.Yaml

/-- How a scalar is spelled. -/
inductive Style where
  | plain
  | singleQuoted
  | doubleQuoted
  | literal
  | folded
deriving Repr, DecidableEq

inductive Token where
  | streamStart
  | streamEnd
  | versionDirective (major minor : Nat)
  | tagDirective (handle start : String)
  | documentStart
  | documentEnd
  | blockListStart
  | blockTableStart
  | blockEnd
  | flowListStart
  | flowListEnd
  | flowTableStart
  | flowTableEnd
  | dash
  | comma
  | key
  | colon
  | aliasOf (name : String)
  | anchor (name : String)
  | tag (handle suffix : String)
  | scalar (text : String) (style : Style)
deriving Repr, DecidableEq

end BuildLedger.Yaml
