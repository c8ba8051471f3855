import PageAudit.Report.FileName
/-!
The folder of saved reports. It is made when the first report is saved, unless a file stands
in its place. Saving a report twice under one name leaves one file, and a report that cannot
be saved leaves every file as it was.
-/
namespace PageAudit.Report

/-- What a name in the folder stands for. -/
inductive Entry where
  | file (contents : String)
  /-- Something that no report can be written to. -/
  | blocked
deriving DecidableEq, Repr

/-- What stands in the place of the folder. -/
inductive Folder where
  | absent
  /-- A file, or whatever else keeps the folder from being made. -/
  | blocked
  | holding (entries : List (String × Entry))
deriving DecidableEq, Repr, Inhabited

/-- Why a report could not be saved. -/
inductive SaveError where
  | folder (path : String)
  | file (path : String)
deriving DecidableEq, Repr

def SaveError.message : SaveError → String
  | .folder path => "Could not create report directory " ++ path
  | .file path => "Could not write " ++ path

namespace Folder

/-- The most bytes that a name in a folder may have. -/
def maxName : Nat := 255

def entries : Folder → List (String × Entry)
  | .holding entries => entries
  | _ => []

/-- The entry of a name. -/
def entry? (f : Folder) (name : String) : Option Entry := f.entries.lookup name

/-- The names in the folder. -/
def names (f : Folder) : List String := f.entries.map (·.1)

/-- The entries with one name given a new entry, at its old place if it has one. -/
def put (name : String) (e : Entry) : List (String × Entry) → List (String × Entry)
  | [] => [(name, e)]
  | (n, old) :: rest => if n = name then (n, e) :: rest else (n, old) :: put name e rest

/-- Puts a file where the folder belongs, unless the folder is there. -/
def block : Folder → Folder
  | .holding entries => .holding entries
  | _ => .blocked

/-- Saves a report in the folder at `path`; also the path of the report. -/
def save (f : Folder) (path : String) (r : AuditResult) (format : Format) :
    Folder × Except SaveError String :=
  match f with
  | .blocked => (.blocked, .error (.folder path))
  | _ =>
    let name := fileName r format
    let target := path ++ "/" ++ name
    if maxName < name.utf8ByteSize || f.entry? name = some .blocked then
      (.holding f.entries, .error (.file target))
    else (.holding (put name (.file (contents r format)) f.entries), .ok target)

end Folder

end PageAudit.Report
