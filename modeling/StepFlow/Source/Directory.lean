import StepFlow.Source.Catalog
import StepFlow.Source.File

/-! Loading the flow files of a directory. -/
namespace StepFlow

inductive DirectoryItem where
  | file (bytes : List UInt8)
  | directory

/-- A directory by its path, with what is in it in any order; none if it does not exist. -/
structure Directory where
  path : String
  items : Option (List (String × DirectoryItem))

namespace Directory

def flowFile? (d : Directory) (item : String × DirectoryItem) : Option FlowFile :=
  match item.2, FileFormat.ofName? item.1 with
  | .file bytes, some format =>
    some { name := item.1, path := d.path ++ "/" ++ item.1, format, bytes }
  | _, _ => none

def flowFiles (d : Directory) (items : List (String × DirectoryItem)) : List FlowFile :=
  (items.mergeSort fun a b => !decide (b.1 < a.1)).filterMap d.flowFile?

/-- Adds a flow of a file. An id is not given twice. -/
def addFlow (file : FlowFile) (c : Catalog) (f : Flow) : Except Fault Catalog :=
  if (c.get? f.id).isSome then .error (.duplicateFlow f.id file.name file.path)
  else .ok (c.insert f)

def addFile (c : Catalog) (file : FlowFile) : Except Fault Catalog := do
  (← file.flows).foldlM (addFlow file) c

def load (d : Directory) : Except Fault Catalog :=
  match d.items with
  | none => .error (.directoryNotFound d.path)
  | some items => (d.flowFiles items).foldlM addFile []

def describe (d : Directory) : String :=
  "DirectoryFlowLoader(directory=" ++ Text.Quoted.ofString d.path ++ ")"

end Directory
end StepFlow
