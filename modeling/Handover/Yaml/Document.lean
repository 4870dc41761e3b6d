import Handover.Yaml.Input
import Handover.Yaml.Node.Reader
import Handover.Yaml.Node.Value
import Handover.Yaml.Token.Lexer

namespace Handover.Yaml

def ofInput (i : Input) : Except Fault Value := do
  match ← Graph.ofTokens? (Token.ofInput i) with
  | none => return .null
  | some g => g.toValue

def ofBytes (bs : Bytes) : Except Fault Value :=
  ofInput (.ofBytes bs)

end Handover.Yaml
