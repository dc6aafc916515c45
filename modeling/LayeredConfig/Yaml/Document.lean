import LayeredConfig.Yaml.Node.Expansion
import LayeredConfig.Yaml.Token.Stream

/-!
# Documents

The value of a text. The text holds one document at most, and no control characters.
-/

namespace LayeredConfig.Yaml

/-- The value of a text. -/
def Node.ofText (s : String) : Except Fault Node := do
  if !s.all isAllowed then throw .controlCharacter
  Node.ofTree (← Tree.ofTokens (← tokensOf s.toList))

end LayeredConfig.Yaml
