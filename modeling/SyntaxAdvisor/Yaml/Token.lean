import SyntaxAdvisor.Yaml.Mark

/-!
# YAML tokens

The scanner cuts a YAML text into tokens: stream and document boundaries, directives, the
starts and ends of block and flow collections, the indicators of keys, values and entries,
anchors, aliases, tags and scalars. Each token carries the marks where it starts and ends.
-/

namespace SyntaxAdvisor.Yaml

/-- The value of a directive. -/
inductive DirectiveValue where
  /-- A `%YAML` directive's version. -/
  | version (major minor : Nat)
  /-- A `%TAG` directive's handle and prefix. -/
  | tagPrefix (handle pfx : String)
  /-- Any other directive, whose value is ignored. -/
  | other
deriving Inhabited

/-- The kinds of token. -/
inductive TokenKind where
  | streamStart
  | streamEnd
  | directive (name : String) (value : DirectiveValue)
  | documentStart
  | documentEnd
  | blockSequenceStart
  | blockMappingStart
  | blockEnd
  | flowSequenceStart
  | flowMappingStart
  | flowSequenceEnd
  | flowMappingEnd
  | key
  | value
  | blockEntry
  | flowEntry
  | alias (name : String)
  | anchor (name : String)
  | tag (handle : Option String) (suffix : String)
  | scalar (text : String) (plain : Bool) (style : Option Char)
deriving Inhabited

/-- How a token kind is named in messages. -/
def TokenKind.id : TokenKind → String
  | .streamStart => "<stream start>"
  | .streamEnd => "<stream end>"
  | .directive _ _ => "<directive>"
  | .documentStart => "<document start>"
  | .documentEnd => "<document end>"
  | .blockSequenceStart => "<block sequence start>"
  | .blockMappingStart => "<block mapping start>"
  | .blockEnd => "<block end>"
  | .flowSequenceStart => "["
  | .flowMappingStart => "\x7b"
  | .flowSequenceEnd => "]"
  | .flowMappingEnd => "\x7d"
  | .key => "?"
  | .value => ":"
  | .blockEntry => "-"
  | .flowEntry => ","
  | .alias _ => "<alias>"
  | .anchor _ => "<anchor>"
  | .tag _ _ => "<tag>"
  | .scalar _ _ _ => "<scalar>"

/-- A token and where it stands. -/
structure Token where
  /-- What the token is. -/
  kind : TokenKind
  /-- Where it starts. -/
  startMark : Mark
  /-- Where it ends. -/
  endMark : Mark
deriving Inhabited

/-- The kinds of token, without their contents, for tests of what comes next. -/
inductive TokenClass where
  | streamStart | streamEnd | directive | documentStart | documentEnd
  | blockSequenceStart | blockMappingStart | blockEnd
  | flowSequenceStart | flowMappingStart | flowSequenceEnd | flowMappingEnd
  | key | value | blockEntry | flowEntry | alias | anchor | tag | scalar
deriving BEq, Inhabited

/-- The class of a token kind. -/
def TokenKind.cls : TokenKind → TokenClass
  | .streamStart => .streamStart
  | .streamEnd => .streamEnd
  | .directive _ _ => .directive
  | .documentStart => .documentStart
  | .documentEnd => .documentEnd
  | .blockSequenceStart => .blockSequenceStart
  | .blockMappingStart => .blockMappingStart
  | .blockEnd => .blockEnd
  | .flowSequenceStart => .flowSequenceStart
  | .flowMappingStart => .flowMappingStart
  | .flowSequenceEnd => .flowSequenceEnd
  | .flowMappingEnd => .flowMappingEnd
  | .key => .key
  | .value => .value
  | .blockEntry => .blockEntry
  | .flowEntry => .flowEntry
  | .alias _ => .alias
  | .anchor _ => .anchor
  | .tag _ _ => .tag
  | .scalar _ _ _ => .scalar

end SyntaxAdvisor.Yaml
