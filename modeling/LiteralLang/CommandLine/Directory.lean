import LiteralLang.CommandLine.System
import LiteralLang.Text.Pieces

/-!
# Directories

The files that a run can see, by their paths below the directory it runs in.  A path is followed
component by component; directories are those that hold a file.  A path that leaves the directory
goes on from the root of the system around it and begins with a slash.
-/

namespace LiteralLang.CommandLine

def textOf (bytes : ByteArray) : Except FileFault String :=
  match String.fromUTF8? bytes with
  | some text => .ok text
  | none => .error .notText

/-- The files of a directory, their paths and what they hold, and the system around it. -/
structure Directory where
  files : List (String × ByteArray)
  [system : System]

/-- What a path leads to. -/
inductive Place where
  | file (path : String)
  | device (device : Device)
  /-- Nothing yet, in a directory that is there. -/
  | vacant (path : String)
  /-- Nothing, where no file can be made. -/
  | closed (reason : FileFault)
  /-- No directory, though the path asks for one by a slash at its end; the reason is why it cannot
  be read. -/
  | asDirectory (reason : FileFault)
  | directory
  | fault (reason : FileFault)
  deriving DecidableEq

namespace Directory

def bytes? (directory : Directory) (path : String) : Option ByteArray :=
  (directory.files.lookup path).or (directory.system.files.lookup path)

/-- Some file lies below a path. -/
def hasBelow (directory : Directory) (path : String) : Bool :=
  (directory.files ++ directory.system.files).any fun (name, _) =>
    (path.toList ++ ['/']).isPrefixOf name.toList

/-- The path is that of a directory. -/
def isDirectory (directory : Directory) (path : String) : Bool :=
  directory.hasBelow path || directory.system.directories.contains path

/-- The path of components, the last of them first. -/
def pathOf (components : List (List Char)) : String :=
  "/".intercalate (components.reverse.map String.ofList)

def root : List (List Char) := [[]]

/-- The components of the directory around another one, of both the last first.  The root is around
itself. -/
def around (directory : Directory) : List (List Char) → List (List Char)
  | [] => directory.system.around
  | [[]] => root
  | _ :: outer => outer

/-- The greatest number of bytes in the name of a file. -/
def longestName : Nat := 255

/-- The greatest number of bytes in a path. -/
def longestPath : Nat := 4095

/-- What a component leads to that stands for no directory, by what follows it: nothing, slashes
alone, or further components. -/
def endsAt (reached : Place) (reason : FileFault) (rest : List (List Char)) : Place :=
  if rest.isEmpty then reached
  else if rest.all (·.isEmpty) then .asDirectory reason
  else .fault reason

/-- What the rest of a path leads to from inside a directory, whose own components are given with
the last first. -/
def follow (directory : Directory) (inside : List (List Char)) : List (List Char) → Place
  | [] => .directory
  | component :: rest =>
      if component = [] ∨ component = ['.'] then directory.follow inside rest
      else if component = ['.', '.'] then directory.follow (directory.around inside) rest
      else
        let path := pathOf (component :: inside)
        if longestName < (String.ofList component).utf8ByteSize then
          endsAt (.fault .nameTooLong) .nameTooLong rest
        else if (directory.bytes? path).isSome then endsAt (.file path) .notDirectory rest
        else
          match directory.system.devices.lookup path with
          | some device => endsAt (.device device) .notDirectory rest
          | none =>
              if directory.isDirectory path then directory.follow (component :: inside) rest
              else
                match directory.system.closed.lookup (pathOf inside) with
                | some reason => endsAt (.closed reason) .notFound rest
                | none => endsAt (.vacant path) .notFound rest

/-- What a path leads to. -/
def find (directory : Directory) (path : String) : Place :=
  if longestPath < path.utf8ByteSize then .fault .nameTooLong
  else
    match path.toList with
    | [] => .fault .notFound
    | '/' :: rest => directory.follow root (Text.pieces '/' rest)
    | all => directory.follow [] (Text.pieces '/' all)

/-- The text of the file of a path.  Devices hold none. -/
def read (directory : Directory) (path : String) : Except FileFault String :=
  match directory.find path with
  | .file path => (directory.bytes? path).elim (.error .notFound) textOf
  | .vacant _ | .closed _ => .error .notFound
  | .device .endless | .device .full => .error .noMemory
  | .device _ => .error .noDevice
  | .directory => .error .isDirectory
  | .asDirectory reason | .fault reason => .error reason

/-- The directory with the file of a path holding other bytes. -/
def put (directory : Directory) (path : String) (bytes : ByteArray) : Directory :=
  if directory.files.any (·.1 == path) then
    { directory with
      files := directory.files.map fun (name, old) =>
        if name = path then (name, bytes) else (name, old) }
  else { directory with files := directory.files ++ [(path, bytes)] }

/-- The directory after a text was written to the file of a path.  Devices do not keep it. -/
def write (directory : Directory) (path : String) (text : String) : Except FileFault Directory :=
  match directory.find path with
  | .file path | .vacant path => .ok (directory.put path text.toUTF8)
  | .device _ => .error .noDevice
  | .asDirectory _ | .directory => .error .isDirectory
  | .closed reason | .fault reason => .error reason

/-- The path leads out of the directory. -/
def isOutside (path : String) : Bool := path.toList.head? == some '/'

def changes (before after : Directory) : List (String × ByteArray) :=
  after.files.filter fun (path, bytes) => !isOutside path && before.files.lookup path != some bytes

end Directory

end LiteralLang.CommandLine
