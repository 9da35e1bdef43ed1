import DeviceCli.Settings.Profile

/-!
# Finding profiles

A `Library` is a list of directories in which profiles are looked for by name. In each directory
the name is tried as it is, then with the extensions `toml` and `json`.

Files are those of a `FileTree`: texts by path below one directory.
-/

namespace DeviceCli

/-- Files and directories below one directory. -/
structure FileTree where
  /-- the path of the directory -/
  root : String
  /-- the texts of files, by their paths below it -/
  files : List (String × String)
  /-- further directories, by their paths below it -/
  directories : List String
  deriving Inhabited

/-- What a path leads to. -/
inductive FileEntry where
  | file (text : String)
  | directory

namespace FileTree

variable (t : FileTree)

/-- Whether a path, by its parts, is a directory: the root, one that was listed, or one on the way
    to something. -/
def isDirectory (parts : List (List Char)) : Bool :=
  (t.directories.any fun d => parts.isPrefixOf (pathParts d)) ||
    (t.files.any fun f => parts.isPrefixOf (pathParts f.1).dropLast) || parts.isEmpty

/-- What is at a path, by its parts. -/
def entry? (parts : List (List Char)) : Option FileEntry :=
  match t.files.find? fun f => pathParts f.1 == parts with
  | some f => some (.file f.2)
  | none => if t.isDirectory parts then some .directory else none

/-- Follows the steps of a path from a directory; only from directories does a step lead on, be it
    one that stays there. -/
def walk : List (List Char) → List (List Char) → Option FileEntry
  | here, [] => t.entry? here
  | here, part :: rest =>
    if t.isDirectory here then
      if part = ['.'] then walk here rest
      else if part = ['.', '.'] then
        match here with
        | [] => none
        | _ :: _ => walk here.dropLast rest
      else walk (here ++ [part]) rest
    else none

/-- What a path leads to. A path that ends in a slash leads to no file. -/
def resolve? (path : String) : Option FileEntry :=
  let cs := path.toList
  let root := t.root.toList
  if root.isPrefixOf cs then
    match t.walk [] (pathSteps (String.ofList (cs.drop root.length))), cs.getLast? with
    | some (.file _), some '/' => none
    | found, _ => found
  else none

/-- Whether a path leads to a file. -/
def isFile (path : String) : Bool :=
  match t.resolve? path with
  | some (.file _) => true
  | _ => false

/-- The text of the file at a path. -/
def read (path : String) : Except Failure String :=
  match t.resolve? path with
  | some (.file text) => .ok text
  | some .directory => .error (.file s!"reading {path}" "is a directory")
  | none => .error (.file s!"reading {path}" "no such file or directory")

end FileTree

/-- A path below another one; a path from the root stays as it is. -/
def joinPath (base path : String) : String :=
  if path.toList.head? == some '/' then path
  else if base.isEmpty then path
  else if base.toList.getLast? == some '/' then base ++ path
  else base ++ "/" ++ path

/-- Reads the profile at a path. -/
def Profile.load (t : FileTree) (path : String) : Except Failure Profile :=
  match Format.ofPath? path with
  | none => .error (.definition (.unknownProfileFormat path))
  | some format => do
    let text ← t.read path
    Profile.parse format text

/-- Directories in which profiles are looked for, in order. -/
structure Library where
  searchPaths : List String := []
  deriving Inhabited

namespace Library

/-- The paths that a name may mean, in the order in which they are tried. -/
def candidates (l : Library) (name : String) : List String :=
  l.searchPaths.flatMap fun base =>
    [joinPath base name, joinPath base (name ++ ".toml"), joinPath base (name ++ ".json")]

/-- The first of them that is a file. -/
def find? (l : Library) (t : FileTree) (name : String) : Option String :=
  (l.candidates name).find? t.isFile

/-- Reads the profile of a name. -/
def load (l : Library) (t : FileTree) (name : String) : Except Failure Profile :=
  match l.find? t name with
  | some path => Profile.load t path
  | none => .error (.definition (.noSuchProfile name))

end Library

end DeviceCli
