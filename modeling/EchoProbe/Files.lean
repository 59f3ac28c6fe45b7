import EchoProbe.SystemError
import EchoProbe.Text.Utf8

/-!
# The files of a directory

What can be read from a working directory: files with their bytes, and
directories. A path is followed part by part, and each way in which it can
fail is the system's own. A path from the root is told apart by a first part
of its own, and a path that leads out of the working directory by the parts
that lead upwards.
-/

namespace EchoProbe

/-- Why a file cannot be read as text. -/
inductive FileFault where
  /-- The system refuses. -/
  | system (error : SystemError)
  /-- The path holds a character that no path may hold. -/
  | badPath
  /-- The file is not UTF-8. -/
  | notText
deriving DecidableEq, Repr

/-- The wording of a file's fault. -/
def FileFault.message : FileFault → String
  | .system error => error.message
  | .badPath => "file name contained an unexpected NUL byte"
  | .notText => "stream did not contain valid UTF-8"

/-- What stands at a path. -/
inductive FileEntry where
  /-- A file with its bytes. -/
  | file (content : List UInt8)
  /-- A directory. -/
  | directory
deriving DecidableEq, Repr

/-- **The files that can be read.** -/
structure FileTree where
  /-- The parts of each path, with what stands there. -/
  entries : List (List String × FileEntry)
deriving DecidableEq, Repr

namespace FileTree

/-- The place of the root. -/
def root : List String := ["/"]

/-- The parts of a path that lead somewhere. -/
def parts (path : String) : List String :=
  (path.splitOn "/").filter fun p => p != "" && p != "."

/-- Where a path begins. -/
def origin (path : String) : List String := if path.startsWith "/" then root else []

/-- The tree of some entries with their paths. -/
def ofList (entries : List (String × FileEntry)) : FileTree :=
  ⟨entries.map fun (path, e) => (origin path ++ parts path, e)⟩

/-- Whether a place is there on every system: the root, the working
directory, and what is above it. -/
def isGiven (place : List String) : Bool := place == root || place.all (· == "..")

/-- What stands at a place. Where something stands below, there is a
directory. -/
def at? (t : FileTree) (place : List String) : Option FileEntry :=
  if isGiven place then some .directory
  else
    match t.entries.lookup place with
    | some e => some e
    | none => if t.entries.any fun e => place.isPrefixOf e.1 then some .directory else none

/-- The place above. There is none above the root. -/
def above (place : List String) : List String :=
  if place == root then root
  else if isGiven place then ".." :: place
  else place.dropLast

/-- The directory this many steps above the working directory. -/
def up (n : Nat) : List String := List.replicate n ".."

/-- How many steps above the working directory the entries reach. -/
def height (t : FileTree) : Nat :=
  (t.entries.map fun e => (e.1.takeWhile (· == "..")).length).max?.getD 0

/-- **The working directory and the directories above it**, the root last. A
directory that is further up than any entry holds nothing and is left out. -/
def ancestors (t : FileTree) : List (List String) :=
  (List.range (t.height + 1)).map up ++ [root]

/-- Follow the parts of a path from a place on. -/
def follow (t : FileTree) (place : List String) : List String → Except SystemError FileEntry
  | [] =>
    match t.at? place with
    | some e => .ok e
    | none => .error .noSuchFile
  | p :: ps =>
    match t.at? place with
    | none => .error .noSuchFile
    | some (.file _) => .error .notADirectory
    | some .directory =>
      if 255 < p.utf8ByteSize then .error .nameTooLong
      else if p = ".." then follow t (above place) ps
      else follow t (place ++ [p]) ps

/-- What stands at a path. -/
def entry (t : FileTree) (path : String) : Except FileFault FileEntry :=
  if path.contains (Char.ofNat 0) then .error .badPath
  else if path = "" then .error (.system .noSuchFile)
  else
    match t.follow (origin path) (parts path) with
    | .error e => .error (.system e)
    | .ok (.file content) =>
      if path.endsWith "/" then .error (.system .notADirectory) else .ok (.file content)
    | .ok .directory => .ok .directory

/-- Whether something stands at a path. -/
def holds (t : FileTree) (path : String) : Bool := (t.entry path).isOk

/-- The bytes of the file at a path. -/
def bytes (t : FileTree) (path : String) : Except FileFault (List UInt8) :=
  match t.entry path with
  | .error e => .error e
  | .ok .directory => .error (.system .isADirectory)
  | .ok (.file content) => .ok content

/-- **The text of the file at a path.** -/
def text (t : FileTree) (path : String) : Except FileFault String :=
  match t.bytes path with
  | .error e => .error e
  | .ok content =>
    match Text.Utf8.decode? content with
    | some s => .ok s
    | none => .error .notText

end FileTree

end EchoProbe
