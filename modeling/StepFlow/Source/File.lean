import StepFlow.Flow.Parse
import StepFlow.Json.Reader
import StepFlow.Text.Utf8
import StepFlow.Yaml.Reader

/-! Flow files: names, formats, and the flows that a file holds. -/
namespace StepFlow

inductive FileFormat where
  | yaml | json
deriving DecidableEq, Repr

/-- A name in front of its last point and behind it. A point at either end of the name does not
count. -/
def splitFileName (name : String) : String × String :=
  let cs := name.toList
  let tail := (cs.reverse.takeWhile (· != '.')).reverse
  let stem := cs.take (cs.length - tail.length - 1)
  if tail.isEmpty ∨ stem.isEmpty then (name, "") else (String.ofList stem, String.ofList tail)

/-- The format that the ending of a name tells, in letters of any case; none if it is no flow
file. -/
def FileFormat.ofName? (name : String) : Option FileFormat :=
  let ending := (splitFileName name).2.map Char.toLower
  if ending = "yaml" ∨ ending = "yml" then some .yaml else if ending = "json" then some .json
  else none

structure FlowFile where
  name : String
  path : String
  format : FileFormat
  bytes : List UInt8

namespace FlowFile

def stem (f : FlowFile) : String := (splitFileName f.name).1

/-- The value that the file holds. A file that is no text, and a value that cannot be made, are
refused as such. -/
def document (f : FlowFile) : Except Fault Value :=
  match Text.ofUtf8? f.bytes with
  | none => .error .fileNotUtf8
  | some s =>
    let cs := Text.unifyNewlines s.toList
    let malformed := Fault.fileMalformed f.name f.path
    match f.format with
    | .json => (Json.parse (String.ofList cs)).mapError fun
      | .malformed => malformed
      | .tooLong digits => .intTooLong digits
      | .tooDeep isArray => .nestedTooDeep (some (if isArray then "array" else "object"))
    | .yaml => (Yaml.read cs).mapError fun
      | .malformed => malformed
      | .fault e => e

/-- The flows of a file in order: none in an empty one, those under `flows` unless there are steps
beside them, or else one. -/
def flows (f : FlowFile) : Except Fault (List Flow) := do
  match ← f.document with
  | .null => return []
  | .mapping es =>
    match Entries.getText? es "flows", Entries.hasText es "steps" with
    | some (.mapping definitions), false => definitions.mapM fun (key, data) => Flow.parse data key
    | some (.list definitions), false => definitions.mapM fun data => Flow.parse data .null
    | some _, false => throw (.flowsNotCollection f.name f.path)
    | _, _ => return [← Flow.parse (.mapping es) (.text f.stem)]
  | _ => throw (.fileNotMapping f.name f.path)

end FlowFile
end StepFlow
