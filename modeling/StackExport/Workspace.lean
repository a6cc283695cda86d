import StackExport.Entries
import StackExport.Text.Pieces
/-!
The files that a run reads and writes, held as texts by their paths.

A path that leads through a file is no path, and neither is one to a directory.
-/
namespace StackExport

/-- Files by the segments of their paths. -/
structure Workspace where
  files : List (List String × String)
deriving DecidableEq, Repr

namespace Workspace

/-- Follows a step of a path. -/
def follow (place : List String) (segment : String) : List String :=
  if segment.isEmpty || segment == "." then place
  else if segment == ".." then place.dropLast
  else place ++ [segment]

/-- The segments of a path that is read in a directory. -/
def resolve (directory : List String) (path : String) : List String :=
  let start := if path.startsWith "/" then [] else directory
  (Text.splitAt '/' path).foldl follow start

/-- The text of a file. -/
def read? (w : Workspace) (path : List String) : Option String :=
  (w.files.find? (·.1 == path)).map (·.2)

/-- True when a directory can be made: no part of its path is a file. -/
def canEnter (w : Workspace) (directory : List String) : Bool :=
  !w.files.any fun (path, _) => path.isPrefixOf directory

def isDirectory (w : Workspace) (path : List String) : Bool :=
  w.files.any fun (other, _) => path.isPrefixOf other && other != path

/-- Writes a file into a directory, which is made if there is none. -/
def write? (w : Workspace) (directory : List String) (name text : String) : Option Workspace :=
  let path := directory ++ [name]
  if w.canEnter directory && !w.isDirectory path then
    some ⟨w.files.filter (·.1 != path) ++ [(path, text)]⟩
  else none

end Workspace

end StackExport
