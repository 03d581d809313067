/-!
Files in memory. A file tree holds files by their paths, together with the directories that these
paths need. A path is walked name by name from the root of the tree: `.` and empty names stay,
`..` goes up. What lies above the root is a directory of which nothing is known. Names and paths
have a greatest length, counted in bytes of UTF-8.
-/

namespace RegisterMachine

/-- Why a file gives no text. -/
inductive ReadFault where
  | notFound
  | isDirectory
  | notDirectory
  /-- A name, or the path as a whole, is too long. -/
  | nameTooLong
  | zeroInName
  /-- The contents are not UTF-8. -/
  | notText
  /-- Any other obstacle, in the words of the system. -/
  | other (reason : String)
  deriving DecidableEq

def ReadFault.message : ReadFault → String
  | notFound => "No such file or directory (os error 2)"
  | isDirectory => "Is a directory (os error 21)"
  | notDirectory => "Not a directory (os error 20)"
  | nameTooLong => "File name too long (os error 36)"
  | zeroInName => "file name contained an unexpected NUL byte"
  | notText => "stream did not contain valid UTF-8"
  | other reason => reason

inductive FileTree.Entry where
  | directory
  | file (contents : ByteArray)

/-- Where a walk has come to. -/
inductive FileTree.Place where
  /-- A directory of the tree, by the names that lead to it. -/
  | inside (names : List String)
  /-- A directory above the root. -/
  | above

/-- Files by the names that lead to them. -/
structure FileTree where
  files : List (List String × ByteArray)

namespace FileTree

def names (path : String) : List String :=
  path.splitOn "/"

/-- Whether the name stays in its directory. -/
def isIdle (name : String) : Bool :=
  name == "" || name == "."

/-- The tree of files given by relative paths. -/
def ofFiles (files : List (String × ByteArray)) : FileTree :=
  ⟨files.map fun (path, contents) => ((names path).filter (!isIdle ·), contents)⟩

def entry? (tree : FileTree) (names : List String) : Option Entry :=
  match tree.files.find? (·.1 == names) with
  | some (_, contents) => some (.file contents)
  | none => if tree.files.any (names.isPrefixOf ·.1) then some .directory else none

def Place.parent : Place → Place
  | inside [] => above
  | inside names => inside names.dropLast
  | above => above

/-- The greatest number of bytes in a name. -/
def longestName : Nat := 255

/-- The greatest number of bytes in a path. -/
def longestPath : Nat := 4095

/-- The contents of the file that the names lead to from a place. -/
def walk (tree : FileTree) : Place → List String → Except ReadFault ByteArray
  | _, [] => .error .isDirectory
  | place, name :: rest =>
    if isIdle name then tree.walk place rest
    else if name == ".." then tree.walk place.parent rest
    else if longestName < name.utf8ByteSize then .error .nameTooLong
    else
      match place with
      | .above => .error .notFound
      | .inside directory =>
        let here := directory ++ [name]
        match tree.entry? here with
        | none => .error .notFound
        | some .directory => tree.walk (.inside here) rest
        | some (.file contents) => if rest.isEmpty then .ok contents else .error .notDirectory

def read (tree : FileTree) (path : String) : Except ReadFault String :=
  if path.toList.contains '\x00' then .error .zeroInName
  else if path.isEmpty then .error .notFound
  else if longestPath < path.utf8ByteSize then .error .nameTooLong
  else
    let start := if path.toList.head? == some '/' then Place.above else Place.inside []
    match tree.walk start (names path) with
    | .error fault => .error fault
    | .ok contents =>
      match String.fromUTF8? contents with
      | some text => .ok text
      | none => .error .notText

end FileTree

end RegisterMachine
