import UsbIdentity.Rule
import UsbIdentity.Text.Quoted

namespace UsbIdentity

/-- An attribute with one value under `equals` is written bare, any other with its operator and
its values in braces, and an empty one not at all. -/
def RuleSet.chars {α : Type} (set : RuleSet α) (label : String) (render : α → List Char) :
    List Char :=
  match set.operator, set.values with
  | _, [] => []
  | .equals, [value] => ' ' :: label.toList ++ ' ' :: render value
  | operator, values =>
    ' ' :: label.toList ++ ' ' :: operator.name.toList ++ [' ', '\x7b'] ++
      values.flatMap (fun value => ' ' :: render value) ++ [' ', '\x7d']

namespace Rule

def idChars (id : String) : List Char :=
  if id = "" then ['*'] else id.toList

def quotedChars (label value : String) : List Char :=
  if value = "" then [] else ' ' :: label.toList ++ ' ' :: Text.Quoted.encode value

def chars (rule : Rule) : List Char :=
  rule.target.name.toList ++
    (if rule.vendorId = "" ∧ rule.productId = "" then []
      else " id ".toList ++ idChars rule.vendorId ++ ':' :: idChars rule.productId) ++
    quotedChars "serial" rule.serialNumber ++
    quotedChars "name" rule.deviceName ++
    quotedChars "hash" rule.deviceHash ++
    rule.devicePorts.chars "via-port" Text.Quoted.encode ++
    rule.interfaceTypes.chars "with-interface" InterfaceType.chars

def text (rule : Rule) : String :=
  String.ofList rule.chars

end Rule

end UsbIdentity
