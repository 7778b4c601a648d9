import Tunables.Text.Decoding
import Tunables.Text.Quoted

/-!
# Trees of files

Datasets, replies and settings are read from files.  A tree of files is given
as the list of its files with their contents; a directory exists when it is
named or when a file lies below it.
-/

namespace Tunables

/-- The path of a file or directory. -/
structure TreePath where
  absolute : Bool
  components : List Text
  deriving DecidableEq, Repr

namespace TreePath

/-- Reads a path; empty components and single dots are dropped. -/
def ofText (text : Text) : TreePath :=
  let pieces := (text.toList.splitOn (.char '/')).map Text.ofList
  ⟨text.toList.head? == some (.char '/'), pieces.filter fun piece => piece != "" && piece != "."⟩

def text (path : TreePath) : Text :=
  if path.absolute then "/" ++ Text.intercalate "/" path.components
  else if path.components.isEmpty then "."
  else Text.intercalate "/" path.components

def child (path : TreePath) (name : Text) : TreePath :=
  ⟨path.absolute, path.components ++ [name]⟩

/-- The path with every step to a parent carried out. -/
def resolved (path : TreePath) : TreePath :=
  let follow (passed : List Text) (component : Text) : List Text :=
    if component = (".." : Text) then passed.drop 1 else component :: passed
  ⟨path.absolute, (path.components.foldl follow []).reverse⟩

/-- Whether a path leads to a place strictly below another one. -/
def isBelow (path directory : TreePath) : Bool :=
  path.absolute == directory.absolute &&
    directory.components.length < path.components.length &&
    directory.components.isPrefixOf path.components

end TreePath

/-- Why a file could not be read. -/
inductive FileError where
  | notFound (path : Text)
  | isDirectory (path : Text)
  | notDirectory (path : Text)
  deriving DecidableEq, Repr

def FileError.number : FileError → Nat
  | .notFound _ => 2
  | .isDirectory _ => 21
  | .notDirectory _ => 20

/-- The name of the kind of a file error. -/
def FileError.kind : FileError → String
  | .notFound _ => "FileNotFoundError"
  | .isDirectory _ => "IsADirectoryError"
  | .notDirectory _ => "NotADirectoryError"

def FileError.reason : FileError → String
  | .notFound _ => "No such file or directory"
  | .isDirectory _ => "Is a directory"
  | .notDirectory _ => "Not a directory"

/-- The path that a file error is about. -/
def FileError.path : FileError → Text
  | .notFound path => path
  | .isDirectory path => path
  | .notDirectory path => path

def FileError.message (error : FileError) : Text :=
  "[Errno " ++ toString error.number ++ "] " ++ error.reason ++ ": " ++ Text.quoted error.path

def FileError.shown (error : FileError) : Text :=
  error.kind ++ "(" ++ toString error.number ++ ", " ++ Text.quoted error.reason ++ ")"

/-- A tree of files, and the directory in it that holds the program. -/
structure FileTree where
  files : List (TreePath × Text.Bytes)
  directories : List TreePath
  package : TreePath

namespace FileTree

/-- No files, and the program at the root. -/
def empty : FileTree :=
  ⟨[], [], ⟨true, []⟩⟩

def content? (tree : FileTree) (path : TreePath) : Option Text.Bytes :=
  (tree.files.find? fun file => file.1 == path).map (·.2)

def isDirectory (tree : FileTree) (path : TreePath) : Bool :=
  (tree.directories.any fun directory => directory == path || directory.isBelow path) ||
    tree.files.any fun file => file.1.isBelow path

def read (tree : FileTree) (path : TreePath) : Except FileError Text.Bytes :=
  match tree.content? path.resolved with
  | some bytes => .ok bytes
  | none =>
      if tree.isDirectory path.resolved then .error (.isDirectory path.text)
      else if tree.files.any fun file => path.resolved.isBelow file.1 then
        .error (.notDirectory path.text)
      else .error (.notFound path.text)

/-- The names of the entries directly in a directory, each once. -/
def entryNames (tree : FileTree) (directory : TreePath) : List Text :=
  let below := (tree.files.map (·.1) ++ tree.directories).filter (·.isBelow directory)
  (below.filterMap fun path => path.components[directory.components.length]?).eraseDups

end FileTree
end Tunables
