import Handover.Text.Basic
import Handover.Yaml.Lexeme.Name

namespace Handover.Yaml

inductive Bracket where
  | blockSequence
  | blockMapping
  | flowSequence
  | flowSequenceEnd
  | flowMapping
  | flowMappingEnd
  | blockEnd
  deriving DecidableEq, Repr

inductive Token where
  | directive (d : Directive)
  | documentStart
  | documentEnd
  | streamEnd
  | bracket (b : Bracket)
  | flowEntry
  | blockEntry
  | key
  | value
  | alias (name : String)
  | anchor (name : String)
  | tag (name : TagName)
  | scalar (content : Text) (plain : Bool)
  /-- From here on the text has no tokens. -/
  | failed (e : Fault)
  deriving DecidableEq, Repr

end Handover.Yaml
