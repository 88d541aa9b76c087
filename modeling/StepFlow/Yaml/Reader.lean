import StepFlow.Yaml.Content
import StepFlow.Yaml.Document

/-! Values from YAML texts. -/
namespace StepFlow.Yaml

def isPrintable (c : Char) : Bool :=
  let n := c.toNat
  n == 9 || n == 0xA || n == 0xD || (0x20 ≤ n && n ≤ 0x7E) || n == 0x85 ||
    (0xA0 ≤ n && n ≤ 0xD7FF) || (0xE000 ≤ n && n ≤ 0xFFFD) || 0x10000 ≤ n

def read (cs : List Char) : Except Issue Value :=
  if cs.all isPrintable then do
    let (root, assembly) ← Assemble.document { lexer := .ofText cs }
    match root with
    | none => return .null
    | some n => return valueOf (← assembly.graph.contents n) n
  else .error .malformed

end StepFlow.Yaml
