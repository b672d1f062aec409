import RegionNaming.Text.Split

/-! Files as a run sees them. -/

namespace RegionNaming.Run

inductive ReadError where
  | missing
  | notDirectory
  | directory
  | encoding
  /-- Any other reason, in the words of the system. -/
  | other (text : String)
deriving DecidableEq, Repr

def ReadError.message : ReadError → String
  | .missing => "No such file or directory (os error 2)"
  | .notDirectory => "Not a directory (os error 20)"
  | .directory => "Is a directory (os error 21)"
  | .encoding => "stream did not contain valid UTF-8"
  | .other text => text

structure Files where
  bytes : String → Except ReadError ByteArray
  /-- Whether a path leads to a file, be it one that can be read or not. -/
  isFile : String → Bool
  /-- The directory of the user's own configuration, if there is one. -/
  userDir : Option String

namespace Files

def read (fs : Files) (path : String) : Except ReadError String :=
  match fs.bytes path with
  | .error e => .error e
  | .ok bytes =>
    match String.fromUTF8? bytes with
    | some text => .ok text
    | none => .error .encoding

def join (dir name : String) : String :=
  if dir = "" then name
  else if dir.toList.getLast? = some '/' then dir ++ name
  else dir ++ "/" ++ name

def optionPaths (userDir : Option String) (dir : String) : List String :=
  join dir "region-ruler.toml" ::
    (userDir.map fun user => join (join user "region-ruler") "options.toml").toList

/-- The first options file that exists. Whether it can be read does not matter here. -/
def findOptions (fs : Files) (dir : String) : Option String :=
  (optionPaths fs.userDir dir).find? fs.isFile

end Files

/-- Files kept in memory. A name is the list of the parts of its path from the root; the directories
on the way to a listed name exist. -/
structure FileTree where
  /-- Each listed name with the bytes of its file; without bytes it is a directory. -/
  nodes : List (List String × Option ByteArray)

namespace FileTree

def find? (t : FileTree) (name : List String) : Option (Option ByteArray) :=
  match t.nodes.find? (·.1 = name) with
  | some (_, node) => some node
  | none => if name = [] || t.nodes.any (fun n => name.isPrefixOf n.1) then some none else none

/-- Walks the parts of a path from the directory `here`, whose parts stand in reverse. -/
def walk (t : FileTree) (here : List String) : List String → Except ReadError (List String)
  | [] => .ok here
  | part :: rest =>
    match t.find? here.reverse with
    | none => .error .missing
    | some (some _) => .error .notDirectory
    | some none =>
      if part = "" || part = "." then t.walk here rest
      else if part = ".." then t.walk here.tail rest
      else t.walk (part :: here) rest

/-- What stands at a path: the bytes of a file, or a directory. A path that starts with the word `root`
is taken from the root of the tree, any other one from the directory `cwd`; a path from the root of the
system leads nowhere. -/
def node (t : FileTree) (root : String) (cwd : List String) (path : String) :
    Except ReadError (Option ByteArray) :=
  if path = "" then .error .missing
  else
    let parts := (Text.pieces (· = '/') path.toList).map String.ofList
    let target := match parts with
      | first :: rest =>
        if first = root then t.walk [] rest
        else if first = "" then .error .missing
        else t.walk cwd.reverse parts
      | [] => .ok []
    match target with
    | .error e => .error e
    | .ok name =>
      match t.find? name.reverse with
      | none => .error .missing
      | some node => .ok node

def files (t : FileTree) (root : String) (cwd : List String) (userDir : Option String) : Files where
  bytes path :=
    match t.node root cwd path with
    | .error e => .error e
    | .ok none => .error .directory
    | .ok (some bytes) => .ok bytes
  isFile path :=
    match t.node root cwd path with
    | .ok (some _) => true
    | _ => false
  userDir := userDir

end FileTree

end RegionNaming.Run
