import TableDiscovery.Fault
import TableDiscovery.Text.Replace
import TableDiscovery.Text.Utf8

/-!
# Log files

A log file grows by lines. One with a size limit is set aside under a numbered name before a line
that would reach the limit is written; files set aside earlier move on by one number, and the
oldest is lost.

Paths that lead to one place name one file, and no place is both a file and a directory. Paths and
the names in them have a greatest length in bytes, and hold no null character.

* `Files`, `Files.appendLine`;
* `Files.normal`, `Files.isInside`: the shortest path to a place, and whether it stays inside;
* `Files.unusable?`, `Files.overlongName?`: what is wrong with a path by itself;
* `Files.isDirectory`: whether a path leads to a directory;
* `Files.obstacle?`: why no file can be opened at a path;
* `Rotation`, `Rotation.isDue`, `Rotation.rotate`, `Rotation.write`.
-/

namespace TableDiscovery

/-- Files with their contents by path. -/
abbrev Files := Assoc String String

namespace Files

/-- Makes sure that a file exists. -/
def touch (fs : Files) (path : String) : Files := Assoc.alter fs path "" id

/-- Adds a line to a file. -/
def appendLine (fs : Files) (path line : String) : Files :=
  Assoc.alter fs path "" fun content => content ++ line ++ "\n"

/-- Moves a file over another one, if it exists. -/
def move (fs : Files) (source target : String) : Files :=
  match Assoc.get? fs source with
  | none => fs
  | some content => Assoc.put (Assoc.erase fs source) target content

/-! ## Paths -/

/-- Goes on by one part of a path. The parts passed so far stand in reverse; two points go back. -/
def walk (passed : List String) (part : String) : List String :=
  if part = "" || part = "." then passed
  else if part ≠ ".." then part :: passed
  else
    match passed with
    | [] => [".."]
    | last :: rest => if last = ".." then ".." :: last :: rest else rest

/-- The shortest path to the place that a path leads to. -/
def normal (path : String) : String :=
  (if path.toList.head? = some '/' then "/" else "") ++
    "/".intercalate ((Text.split '/' path).foldl walk []).reverse

/-- Whether a shortest path stays inside the directory that it starts from. -/
def isInside (path : String) : Bool :=
  path.toList.head? ≠ some '/' && (Text.split '/' path).head? ≠ some ".."

/-- The starts of a path that end with one of its parts; `seen` stands before them in reverse. -/
def starts (seen : List Char) : List Char → List String
  | [] => [String.ofList seen.reverse]
  | c :: rest =>
    if c = '/' && seen.head?.any (· ≠ '/') then
      String.ofList seen.reverse :: starts (c :: seen) rest
    else starts (c :: seen) rest

/-- The directories that a file at a path needs, the outermost first. -/
def directories (path : String) : List String :=
  match Text.cutLast? '/' path.toList with
  | none => []
  | some (directory, _) => starts [] (directory.reverse.dropWhile (· = '/')).reverse

/-- The greatest number of bytes of a name in a path. -/
def maxNameSize : Nat := 255

/-- The greatest number of bytes of a path. -/
def maxPathSize : Nat := 4095

/-- What is wrong with a path as a whole, wherever it leads. -/
def unusable? (path : String) : Option Fault :=
  if path.toList.contains '\x00' then some .nullInPath
  else if maxPathSize < path.utf8ByteSize then some (.pathTooLong path)
  else none

/-- What is wrong with the names in a path. -/
def overlongName? (path : String) : Option Fault :=
  if (Text.split '/' path).any fun name => maxNameSize < name.utf8ByteSize then
    some (.pathTooLong path)
  else none

/-- What keeps directories from being made, each one after those above it: a file stands in the
place of the last one or of one above it, or a path is of no use. -/
def blockedBy (fs : Files) : List String → Option Fault
  | [] => none
  | d :: rest =>
    if (Assoc.get? fs (normal d)).isSome then
      match rest with
      | [] => some (.fileInPlaceOf d)
      | next :: _ => (unusable? next).or (some (.fileAbove next))
    else ((unusable? d).or (overlongName? d)).or (fs.blockedBy rest)

/-- Whether a path leads to a directory: to the one that it starts from or one above, to the root,
to one that it needs itself, or to one that a file lies below. -/
def isDirectory (fs : Files) (path : String) : Bool :=
  let place := normal path
  (["", "/"] ++ (directories path).map normal).contains place ||
    (Text.split '/' place).getLast? = some ".." ||
    fs.any fun p => (place ++ "/").toList.isPrefixOf p.1.toList

/-- Why no file can be opened at a path. -/
def obstacle? (fs : Files) (path : String) : Option Fault :=
  let place := normal path
  (((fs.blockedBy (directories path)).or (unusable? place)).or (overlongName? place)).or
    (if fs.isDirectory path then some (.isDirectory place) else none)

end Files

/-- A log file, the size at which it is set aside, and how many such files are kept. -/
structure Rotation where
  path : String
  maxBytes : Int
  backups : Int
deriving DecidableEq, Repr

namespace Rotation

/-- The name of a file that was set aside. -/
def backupPath (r : Rotation) (n : Nat) : String := r.path ++ "." ++ toString n

/-- Whether a line makes the file reach its limit: bytes of the file and characters of the line
are counted, its end included. -/
def isDue (r : Rotation) (fs : Files) (line : String) : Bool :=
  let size := (Text.encodeBytes ((Assoc.get? fs r.path).getD "")).length
  0 < r.maxBytes && r.maxBytes ≤ ((size + line.length + 1 : Nat) : Int)

/-- Moves the files set aside on by one number, the highest first. -/
def shift (r : Rotation) : Nat → Files → Files
  | 0, fs => fs
  | 1, fs => fs
  | n + 2, fs => r.shift (n + 1) (Files.move fs (r.backupPath (n + 1)) (r.backupPath (n + 2)))

/-- Sets the file aside, if any such files are kept, and opens it anew. -/
def rotate (r : Rotation) (fs : Files) : Files :=
  if 0 < r.backups then
    Files.touch (Files.move (r.shift r.backups.toNat fs) r.path (r.backupPath 1)) r.path
  else fs

/-- Writes a line, after the file has been set aside if that is due. -/
def write (r : Rotation) (fs : Files) (line : String) : Files :=
  Files.appendLine (if r.isDue fs line then r.rotate fs else fs) r.path line

end Rotation

end TableDiscovery
