import StorageSurvey.Sources.File
import StorageSurvey.Text.Blank

/-!
# Directories held in memory

A directory is a list of files by path, which stands for the file system of a run.  Paths are
followed one component at a time, so that a file in the place of a directory is told apart from a
file that is not there.
-/

namespace StorageSurvey.Sources

/-- Files by path, the directories on the way being understood. -/
structure Directory where
  files : List (List String × ByteArray)

namespace Directory

/-- The components of a path. -/
def components (path : String) : List String :=
  (Text.split (· == '/') path.toList).map String.ofList

def ofFiles (files : List (String × ByteArray)) : Directory :=
  ⟨files.map fun (path, bytes) => (components path, bytes)⟩

def file? (directory : Directory) (place : List String) : Option ByteArray :=
  directory.files.lookup place

/-- Whether there is a directory at a place. -/
def isDirectory (directory : Directory) (place : List String) : Bool :=
  place.isEmpty || directory.files.any fun file => place != file.1 && place.isPrefixOf file.1

/-- The place that a path leads to. -/
def follow (directory : Directory) (place : List String) :
    List String → Except FileFault (List String)
  | [] => .ok place
  | component :: rest =>
      if !directory.isDirectory place then
        .error (if (directory.file? place).isSome then .notADirectory else .notFound)
      else if component = "" ∨ component = "." then directory.follow place rest
      else if component = ".." then
        if place.isEmpty then .error .notFound else directory.follow place.dropLast rest
      else directory.follow (place ++ [component]) rest

/-- Reads the file at a path as a text. -/
def read (directory : Directory) (path : String) : FileContents := do
  if path.startsWith "/" then throw .notFound
  let place ← directory.follow [] (components path)
  match directory.file? place with
  | some bytes => match String.fromUTF8? bytes with
      | some text => return text
      | none => throw .notText
  | none => throw (if directory.isDirectory place then .isADirectory else .notFound)

end Directory

end StorageSurvey.Sources
