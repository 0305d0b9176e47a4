/-!
# Directories

A directory holds files and folders, each with all the folders above it.  A path is read component
by component: every component but the last must be a folder, and the last must be a file whose
content is text.
-/

namespace StatementLang

/-- Why a file cannot be read as text. -/
inductive FileError where
  | missing
  | isFolder
  | notFolder
  | nameTooLong
  | invalidText
deriving DecidableEq, Repr

def FileError.message : FileError → String
  | missing => "No such file or directory (os error 2)"
  | isFolder => "Is a directory (os error 21)"
  | notFolder => "Not a directory (os error 20)"
  | nameTooLong => "File name too long (os error 36)"
  | invalidText => "stream did not contain valid UTF-8"

inductive Entry where
  | file (content : ByteArray)
  | folder

/-- Files and folders under their components, in the order in which they were made. -/
structure Directory where
  entries : List (List String × Entry)

namespace Directory

/-- The components of a path that name something. -/
def names (path : String) : List String :=
  (path.splitOn "/").filter fun component ↦ component ≠ "" ∧ component ≠ "."

/-- A directory from paths and what is made under them, in order. -/
def ofPaths (entries : List (String × Entry)) : Directory where
  entries := entries.map fun (path, entry) ↦ (names path, entry)

/-- What every system holds outside of the directory, as far as it is known. -/
def outside : Directory :=
  ofPaths <|
    ("dev/null", .file .empty) ::
      ["bin", "etc", "home", "opt", "proc", "root", "sbin", "sys", "tmp", "usr", "var"].map
        fun name ↦ (name, .folder)

/-- The entry under the given components: the file that was made there last, or a folder if
something was made in it. -/
def entry? (directory : Directory) (components : List String) : Option Entry :=
  match directory.entries.reverse.lookup components with
  | some entry => some entry
  | none =>
    if directory.entries.any fun (path, _) ↦ components.isPrefixOf path then some .folder else none

/-- The components of a path.  A path that ends in a slash goes on to the folder itself. -/
def components (path : String) : List String :=
  let named := (path.splitOn "/").filter fun component ↦ component ≠ ""
  if path.toList.getLast? = some '/' then named ++ ["."] else named

def textOf (content : ByteArray) : Except FileError String :=
  match String.fromUTF8? content with
  | some text => .ok text
  | none => .error .invalidText

/-- The number of bytes that the name of a file or folder may have. -/
def nameLimit : Nat := 255

def pathLimit : Nat := 4095

/-- Follow components from a folder.  What lies above the directory is not known to hold
anything. -/
def follow (directory : Directory) (folder : List String) :
    List String → Except FileError String
  | [] => .error .isFolder
  | "." :: components => directory.follow folder components
  | ".." :: components =>
    if folder.isEmpty then .error (if components.all (· ∈ [".", ".."]) then .isFolder else .missing)
    else directory.follow folder.dropLast components
  | component :: components =>
    if nameLimit < component.utf8ByteSize then .error .nameTooLong
    else
      match directory.entry? (folder ++ [component]) with
      | none => .error .missing
      | some .folder => directory.follow (folder ++ [component]) components
      | some (.file content) => if components.isEmpty then textOf content else .error .notFolder

/-- Read the file under a path.  An absolute path leads out of the directory. -/
def readText (directory : Directory) (path : String) : Except FileError String :=
  if pathLimit < path.utf8ByteSize then .error .nameTooLong
  else if path.toList.head? = some '/' then
    outside.follow [] ((components path).dropWhile (· ∈ [".", ".."]))
  else directory.follow [] (components path)

end Directory

end StatementLang
