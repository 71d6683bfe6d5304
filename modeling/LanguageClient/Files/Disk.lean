import LanguageClient.Files.Path
import LanguageClient.Table

/-!
# Files and links

A disk holds files, devices, directories and symbolic links under their places; a file may have
several places. A path is followed step by step: each step needs a directory to stand in, and a link
on the way is replaced by the path it holds. The system may refuse any access, and it may have no
room for all that is written.
-/

namespace LanguageClient

/-- Why the system refuses an access. -/
inductive Refusal
  /-- The program lacks a privilege. -/
  | notPermitted
  /-- The device failed. -/
  | broken
  /-- The rights of the program do not suffice. -/
  | forbidden
  /-- What is needed is in use. -/
  | busy
  /-- No room is left. -/
  | full
  /-- Nothing can be changed there. -/
  | readOnly
deriving Repr, DecidableEq

/-- The refusal as a text. -/
def Refusal.message : Refusal → String
  | .notPermitted => "Operation not permitted (os error 1)"
  | .broken => "Input/output error (os error 5)"
  | .forbidden => "Permission denied (os error 13)"
  | .busy => "Device or resource busy (os error 16)"
  | .full => "No space left on device (os error 28)"
  | .readOnly => "Read-only file system (os error 30)"

/-- Why an access to a file failed. -/
inductive FileError
  /-- Nothing has that name. -/
  | notFound
  /-- A step needs a directory and stands in something else. -/
  | notDirectory
  /-- A directory cannot be read or written. -/
  | isDirectory
  /-- A name has more than 255 bytes. -/
  | nameTooLong
  /-- More than forty links had to be followed. -/
  | tooManyLinks
  /-- The system refused it. -/
  | refused (refusal : Refusal)
  /-- A path holds the null byte. -/
  | nullByte
  /-- The name or an argument of a program holds the null byte. -/
  | nullArgument
  /-- The bytes of the file are no text. -/
  | notText
deriving Repr, DecidableEq

/-- The failure as a text. -/
def FileError.message : FileError → String
  | .notFound => "No such file or directory (os error 2)"
  | .refused refusal => refusal.message
  | .notDirectory => "Not a directory (os error 20)"
  | .isDirectory => "Is a directory (os error 21)"
  | .nameTooLong => "File name too long (os error 36)"
  | .tooManyLinks => "Too many levels of symbolic links (os error 40)"
  | .nullByte => "file name contained an unexpected NUL byte"
  | .nullArgument => "nul byte found in provided data"
  | .notText => "stream did not contain valid UTF-8"

/-- What stands at a place. -/
inductive Node
  /-- A directory. -/
  | directory
  /-- A file with its bytes. -/
  | file (bytes : List UInt8)
  /-- A device, with the bytes that are read of it; what is written to it is gone. -/
  | device (bytes : List UInt8)
  /-- A link with the path it holds. -/
  | link (target : Path)
deriving Repr, DecidableEq

namespace Node

/-- The bytes that are read of a file or a device. -/
def bytes? : Node → Option (List UInt8)
  | .file bytes | .device bytes => some bytes
  | .directory | .link _ => none

/-- What stands at a place once bytes were written to it. -/
def rewritten : Node → List UInt8 → Node
  | .device own, _ => .device own
  | _, bytes => .file bytes

end Node

/-- What a program asks of the system when it uses files. -/
inductive Access
  /-- To look for a name in a directory. -/
  | enter (directory : Place)
  /-- To read what has a number. -/
  | read (number : Nat)
  /-- To write what has a number. -/
  | write (number : Nat)
  /-- To make a file at a place. -/
  | make (place : Place)
  /-- To put what stands at one place at another one. -/
  | move (source target : Place)
deriving Repr, DecidableEq

/-- The files that a program can see, and the directory it works in. -/
structure Disk where
  /-- The number of what stands at each place below the root. What has several places has one number
  at all of them. -/
  numbers : Table Place Nat
  /-- What has each number; only the numbers of places count. -/
  content : Nat → Node
  /-- The place of the directory that relative paths start from. -/
  workingDirectory : Place
  /-- What the system refuses to the program. -/
  refuses : Access → Option Refusal := fun _ => none
  /-- The most bytes that can be written under each number, where there is not room for any. -/
  room : Nat → Option Nat := fun _ => none

namespace Disk

/-- The number of what stands at a place; the root has none. -/
def number? (disk : Disk) (place : Place) : Option Nat :=
  if place.isEmpty then none else disk.numbers.get? place

/-- What stands at a place; the root is a directory. -/
def node? (disk : Disk) (place : Place) : Option Node :=
  if place.isEmpty then some .directory else (disk.number? place).map disk.content

/-- A number that nothing has yet. -/
def fresh (disk : Disk) : Nat := (disk.numbers.entries.map Prod.snd).foldl max 0 + 1

/-- The number that a file has which is written at a place. -/
def numberFor (disk : Disk) (place : Place) : Nat := (disk.number? place).getD disk.fresh

/-- Asks the system for an access. -/
def allow (disk : Disk) (access : Access) : Except FileError Unit :=
  match disk.refuses access with
  | none => .ok ()
  | some refusal => .error (.refused refusal)

/-- How many links a path may lead through. -/
def maximalLinks : Nat := 40

/-- The longest name of a file. -/
def maximalName : Nat := 255

/-- The longest path, with the byte that ends it. -/
def maximalPath : Nat := 4096

/-- Where a walk along a path came to. -/
inductive Arrival
  /-- At something that exists and is no link that had to be followed. -/
  | found (place : Place) (node : Node)
  /-- At a name that does not exist in a directory that does. -/
  | missing (place : Place)
deriving Repr, DecidableEq

/-- The place that a walk came to. -/
def Arrival.place : Arrival → Place
  | .found place _ => place
  | .missing place => place

/-- Follows steps from a place. `followLast` says whether a link at the end is followed. The number
of links that may still be followed is `links`, and `fuel` bounds the number of steps. -/
def walk (disk : Disk) (followLast : Bool) :
    Nat → Nat → Place → List FileName → Except FileError Arrival
  | 0, _, _, _ => .error .tooManyLinks
  | _ + 1, _, place, [] =>
    match disk.node? place with
    | some node => .ok (.found place node)
    | none => .error .notFound
  | fuel + 1, links, place, step :: rest =>
    match disk.node? place with
    | some .directory =>
      match disk.allow (.enter place) with
      | .error error => .error error
      | .ok () =>
        if step = Path.here then walk disk followLast fuel links place rest
        else if step = Path.above then walk disk followLast fuel links place.dropLast rest
        else if maximalName < step.length then .error .nameTooLong
        else
          let next := place ++ [step]
          match disk.node? next with
          | none => if rest.isEmpty then .ok (.missing next) else .error .notFound
          | some (.link target) =>
            if rest.isEmpty && !followLast then .ok (.found next (.link target))
            else
              match links with
              | 0 => .error .tooManyLinks
              | links + 1 =>
                if target.bytes.isEmpty then .error .notFound
                else
                  walk disk followLast fuel links (if target.isAbsolute then [] else place)
                    (target.steps ++ rest)
          | some _ => walk disk followLast fuel links next rest
    | some _ => .error .notDirectory
    | none => .error .notFound

/-- The number of steps of the longest link. -/
def longestLink (disk : Disk) : Nat :=
  let lengths := disk.numbers.entries.map fun entry =>
    match disk.content entry.2 with
    | .link target => target.steps.length
    | _ => 0
  lengths.foldl max 0

/-- A number of steps that no walk exceeds: every link adds its own steps once at most. -/
def walkFuel (disk : Disk) (steps : List FileName) : Nat :=
  steps.length + maximalLinks * (disk.longestLink + 1) + 2

/-- Follows a path from the working directory. -/
def follow (disk : Disk) (followLast : Bool) (path : Path) : Except FileError Arrival :=
  if path.bytes.contains 0 then .error .nullByte
  else if path.bytes.isEmpty then .error .notFound
  else
    walk disk followLast (disk.walkFuel path.steps) maximalLinks
      (if path.isAbsolute then [] else disk.workingDirectory) path.steps

/-- Follows a path that has to fit into the longest path. -/
def followShort (disk : Disk) (followLast : Bool) (path : Path) : Except FileError Arrival :=
  if maximalPath ≤ path.bytes.length ∧ !path.bytes.contains 0 then .error .nameTooLong
  else disk.follow followLast path

/-- What a path leads to, with its canonical place. -/
def canonical (disk : Disk) (path : Path) : Except FileError (Place × Node) := do
  match ← disk.follow true path with
  | .found place node => return (place, node)
  | .missing _ => throw .notFound

/-- Whether a path leads to something. -/
def exists? (disk : Disk) (path : Path) : Bool :=
  match disk.followShort true path with
  | .ok (.found _ _) => true
  | _ => false

/-- Asks the system to read what stands at a place. -/
def allowRead (disk : Disk) (place : Place) : Except FileError Unit :=
  match disk.number? place with
  | none => .ok ()
  | some number => disk.allow (.read number)

/-- The bytes of the file that a path leads to. -/
def read (disk : Disk) (path : Path) : Except FileError (List UInt8) := do
  match ← disk.followShort true path with
  | .missing _ => throw .notFound
  | .found place node =>
    disk.allowRead place
    match node with
    | .file bytes | .device bytes => return bytes
    | .directory => throw .isDirectory
    | .link _ => throw .tooManyLinks

/-- The text of the file that a path leads to. -/
def readText (disk : Disk) (path : Path) : Except FileError String := do
  match Utf8.toString? (← disk.read path) with
  | some text => return text
  | none => throw .notText

/-- The disk with a node at a place, and wherever else that has the number of the place. -/
def set (disk : Disk) (place : Place) (node : Node) : Disk :=
  let number := disk.numberFor place
  { disk with
    numbers := disk.numbers.insert place number
    content := fun other => if other = number then node else disk.content other }

/-- Opens what a walk came to for writing. -/
def openAt (disk : Disk) : Arrival → Except FileError Unit
  | .found _ .directory => .error .isDirectory
  | .found _ (.link _) => .error .tooManyLinks
  | .found place _ => disk.allow (.write (disk.numberFor place))
  | .missing place => disk.allow (.make place)

/-- As many of the bytes as there is room for at a place. -/
def fitting (disk : Disk) (place : Place) (bytes : List UInt8) : List UInt8 :=
  match disk.room (disk.numberFor place) with
  | none => bytes
  | some most => bytes.take most

/-- Whether there is room for bytes at a place. -/
def fits (disk : Disk) (place : Place) (bytes : List UInt8) : Bool :=
  match disk.room (disk.numberFor place) with
  | none => true
  | some most => bytes.length ≤ most

/-- What stands where a walk came to once bytes were written there. -/
def Arrival.rewritten : Arrival → List UInt8 → Node
  | .found _ node, bytes => node.rewritten bytes
  | .missing _, bytes => .file bytes

/-- The disk with bytes written where a walk came to. -/
def store (disk : Disk) (arrival : Arrival) (bytes : List UInt8) : Disk :=
  disk.set arrival.place (arrival.rewritten bytes)

/-- Writes a file where a path leads, through links; a missing file is made. If there is no room for
all bytes, those that fit are written before the failure. The answer is the disk as it is then. -/
def write (disk : Disk) (path : Path) (bytes : List UInt8) : Disk × Except FileError Unit :=
  match disk.followShort true path with
  | .error error => (disk, .error error)
  | .ok arrival =>
    match disk.openAt arrival with
    | .error error => (disk, .error error)
    | .ok () =>
      (disk.store arrival (disk.fitting arrival.place bytes),
        if disk.fits arrival.place bytes then .ok () else .error (.refused .full))

/-- The disk with what stood at one place put at another one. -/
def moved (disk : Disk) (old new : Place) : Disk :=
  { disk with numbers := (disk.numbers.erase old).insert new (disk.numberFor old) }

/-- The disk with a file or a link put under another name; links at the end of either path are
not followed, and a file or a link that had the name is gone. Two names of one file both stay.
Directories keep their names. -/
def rename (disk : Disk) (source target : Path) : Except FileError Disk := do
  match ← disk.followShort false source, ← disk.followShort false target with
  | .missing _, _ => throw .notFound
  | .found _ .directory, _ => throw .isDirectory
  | .found _ _, .found _ .directory => throw .isDirectory
  | .found old _, arrival =>
    disk.allow (.move old arrival.place)
    if disk.number? old = disk.number? arrival.place then return disk
    else return disk.moved old arrival.place

/-- The disk with a directory at every place above a given one. -/
def setParents (disk : Disk) (place : Place) : Disk :=
  (List.range place.length).foldl (fun disk length =>
    let parent := place.take length
    if (disk.node? parent).isSome then disk else disk.set parent .directory) disk

/-- The disk with a node where a path leads, and with directories on the way to it. -/
def install (disk : Disk) (path : Path) (node : Node) : Disk :=
  let steps := path.steps
  let start := if path.isAbsolute then [] else disk.workingDirectory
  let arrive (disk : Disk) (steps : List FileName) (followLast : Bool) :=
    disk.walk followLast (disk.walkFuel steps) maximalLinks start steps
  let disk := (List.range steps.length).foldl (fun disk length =>
    match arrive disk (steps.take length) true with
    | .ok (.missing place) => disk.set place .directory
    | _ => disk) disk
  match arrive disk steps true, node with
  | .ok (.found place (.file _)), .file bytes => disk.set place (.file bytes)
  | .ok (.missing place), node => disk.set place node
  | _, _ => disk

/-- A disk whose only directories are those on the way to the working directory. -/
def bare (workingDirectory : Place) : Disk :=
  let disk : Disk := { numbers := Table.empty, content := fun _ => .directory, workingDirectory }
  (disk.setParents workingDirectory).set workingDirectory .directory

end Disk

end LanguageClient
