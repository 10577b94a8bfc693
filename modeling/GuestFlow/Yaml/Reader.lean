import GuestFlow.Yaml.Layout
import GuestFlow.Yaml.Meaning

/-!
# Reading YAML

A text is cut into tokens, the tokens form the nodes of one document, and the root of
the nodes has a value.  A text without a document, such as an empty one, means nothing.

`read` gives the value of a text, or says that it is malformed or that a scalar in it
has no value.
-/

set_option autoImplicit false

namespace GuestFlow.Yaml

/-- The value of a text. -/
def read (text : String) : Except Failure Value := do
  let characters := text.toList
  if characters.all isAllowed then
    match ← Node.ofTokens? (tokens characters) with
    | some node => node.value
    | none => .ok .null
  else .error .malformed

/-- Whether no alias in a text stands inside the very node that it stands for. -/
def isFinite (text : String) : Bool :=
  match Node.ofTokens? (tokens text.toList) with
  | .ok (some node) => node.isFinite
  | _ => true

end GuestFlow.Yaml
