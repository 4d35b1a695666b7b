import CanBus.SystemError
import CanBus.Text.Split

/-!
# File trees — what the paths that a user names lead to

A path is gone through part by part, and every part but the last has to be a directory that is there.  A file is
created with everything else in place, so a path to it cannot end in a slash.
-/

namespace CanBus.Console

/-! ## Places -/

/-- A place, by the names that lead down to it from the root. -/
abbrev Place := List String

namespace Place

def root : Place := []

/-- The working directory: one for temporary files, under a name that no path can spell. -/
def here : Place := ["tmp", "\x00"]

/-- The directory above; the root is its own. -/
def parent (place : Place) : Place := place.dropLast

def child (place : Place) (name : String) : Place := place ++ [name]

/-- Whether a place lies somewhere under another. -/
def isUnder (place other : Place) : Bool := other.isPrefixOf place && other ≠ place

@[simp] theorem parent_child (place : Place) (name : String) : (place.child name).parent = place :=
  List.dropLast_concat

@[simp] theorem parent_root : root.parent = root := rfl

end Place

/-! ## Paths -/

/-- A path: where it starts, its parts, and whether a slash ends it. -/
structure Path where
  start : Place
  parts : List String
  slashed : Bool
  deriving DecidableEq, Repr

namespace Path

/-- The place that a path spells if its parts are names. -/
def spelled (path : Path) : Place := path.start ++ path.parts

/-- The number of bytes from which on a path is too long. -/
def tooManyBytes : Nat := 4096

/-- The most bytes that a name may have. -/
def maxNameBytes : Nat := 255

/-- The path that a text spells. -/
def ofText (text : String) : Path :=
  let pieces := (Text.pieces '/' text.toList).map String.ofList
  ⟨if pieces.head? = some "" then Place.root else Place.here, pieces.filter (· ≠ ""),
    pieces.getLast? = some ""⟩

/-- The path that a text spells, or why the text can be none. -/
def read (text : String) : Except SystemError Path :=
  if '\x00' ∈ text.toList then .error .badArgument
  else if tooManyBytes ≤ text.utf8ByteSize then .error .nameTooLong
  else if text = "" then .error .missing
  else .ok (ofText text)

end Path

/-! ## Trees -/

/-- What is behind the name of a device. -/
inductive Device where
  /-- Takes everything. -/
  | sink
  /-- Takes nothing. -/
  | full
  /-- The stream of output. -/
  | output
  /-- The stream of complaints. -/
  | complaints
  /-- A serial line. -/
  | terminal
  /-- Leads to nothing. -/
  | unconnected
  deriving DecidableEq, Repr

/-- The files of a machine with their texts, and its devices. -/
structure FileTree where
  files : List (Place × String)
  devices : List (Place × Device)
  deriving Repr

namespace FileTree

/-- The streams of a process: nothing comes in, and output and complaints go out. -/
def streams : Place := ["proc", "self", "fd"]

/-- The devices of every machine. -/
def commonDevices : List (Place × Device) :=
  [(["dev", "null"], .sink), (["dev", "zero"], .sink), (["dev", "random"], .sink), (["dev", "urandom"], .sink),
    (["dev", "full"], .full), (["dev", "tty"], .unconnected), (streams.child "0", .sink),
    (streams.child "1", .output), (streams.child "2", .complaints)]

/-- Places on every machine that stand for others. -/
def commonLinks : List (Place × Place) :=
  [(["dev", "fd"], streams), (["dev", "stdin"], streams.child "0"), (["dev", "stdout"], streams.child "1"),
    (["dev", "stderr"], streams.child "2"), (["proc", "self", "cwd"], .here), (["proc", "self", "root"], .root)]

/-- Files of every machine; what they say is no log. -/
def commonFiles : List (Place × String) :=
  let settings := ["fstab", "group", "hostname", "hosts", "os-release", "passwd", "resolv.conf", "shadow"]
  let figures := ["cpuinfo", "loadavg", "meminfo", "mounts", "stat", "uptime", "version"]
  let ownFigures := ["cmdline", "comm", "environ", "limits", "maps", "mounts", "stat", "status"]
  (settings.map (["etc", ·]) ++ figures.map (["proc", ·]) ++ ownFigures.map (["proc", "self", ·])).map (·, "\n")

/-- The directories of every machine, and why no file can be created in some. -/
def commonDirectories : List (Place × Option SystemError) :=
  [(["bin"], none), (["boot"], none), (["dev"], none), (["dev", "pts"], some .denied), (["dev", "shm"], none),
    (["etc"], none), (["home"], none), (["lib"], none), (["media"], none), (["mnt"], none), (["opt"], none),
    (["proc"], some .missing), (["proc", "self"], some .missing), (streams, some .missing), (["root"], none),
    (["run"], none), (["sbin"], none), (["srv"], none), (["sys"], some .denied), (["tmp"], none),
    (["usr"], none), (["usr", "bin"], none), (["usr", "lib"], none), (["usr", "local"], none),
    (["usr", "share"], none), (["var"], none), (["var", "log"], none), (["var", "tmp"], none)]

/-- The tree with files in the working directory and under it, and a serial line at a path. -/
def make (files : List (String × String)) (serial : Option String) : FileTree :=
  ⟨files.map (fun (name, text) => ((Path.ofText name).spelled, text)) ++ commonFiles,
    serial.toList.map (fun text => ((Path.ofText text).spelled, .terminal)) ++ commonDevices⟩

/-- The directories: the root, the working one, those of every machine, and those in which something lies. -/
def hasDirectory (tree : FileTree) (place : Place) : Bool :=
  place = .root || place = .here || (commonDirectories.lookup place).isSome ||
    tree.files.any (fun (file, _) => file.isUnder place) || tree.devices.any (fun (device, _) => device.isUnder place)

/-- Whether something is at a place. -/
def contains (tree : FileTree) (place : Place) : Bool :=
  tree.hasDirectory place || (tree.files.lookup place).isSome || (tree.devices.lookup place).isSome

/-- One part further from a place, whether or not something is there.  What stands for another place leads there. -/
def enter (tree : FileTree) (place : Place) (part : String) : Except SystemError Place :=
  if !tree.hasDirectory place then .error .notDirectory
  else if part = "." then .ok place
  else if part = ".." then .ok place.parent
  else if Path.maxNameBytes < part.utf8ByteSize then
    -- a directory that makes up its files knows no bound on names
    .error (if commonDirectories.lookup place = some (some .missing) then .missing else .nameTooLong)
  else .ok ((commonLinks.lookup (place.child part)).getD (place.child part))

/-- All parts further from a place, over what is there. -/
def follow (tree : FileTree) (place : Place) : List String → Except SystemError Place
  | [] => .ok place
  | part :: rest => do
    let next ← tree.enter place part
    if tree.contains next then tree.follow next rest else .error .missing

/-- A place that can be used as a file. -/
def usable (tree : FileTree) (place : Place) : Except SystemError Place :=
  if tree.hasDirectory place then .error .isDirectory
  else if tree.devices.lookup place = some .unconnected then .error .noAddress
  else .ok place

/-- The place of the file or device that a path names. -/
def find (tree : FileTree) (text : String) : Except SystemError Place := do
  let path ← Path.read text
  let place ← tree.follow path.start path.parts
  if path.slashed && !tree.hasDirectory place then .error .notDirectory
  else tree.usable place

/-- The place at which a path names a file to be created, or one that is there already. -/
def reserve (tree : FileTree) (text : String) : Except SystemError Place := do
  let path ← Path.read text
  match path.parts.getLast? with
  | none => .error .isDirectory
  | some last =>
    let directory ← tree.follow path.start path.parts.dropLast
    let place ← tree.enter directory (if path.slashed then "." else last)
    match tree.contains place, commonDirectories.lookup directory with
    | false, some (some refusal) => .error refusal
    | _, _ => tree.usable place

/-- The characters of the file at a path.  A device says nothing. -/
def read (tree : FileTree) (text : String) : Except SystemError (List Char) := do
  let place ← tree.find text
  return ((tree.files.lookup place).getD "").toList

/-- The tree with an empty file at a path.  A device stays what it is. -/
def create (tree : FileTree) (text : String) : Except SystemError FileTree := do
  let place ← tree.reserve text
  if (tree.devices.lookup place).isSome then return tree
  else return { tree with files := (place, "") :: tree.files.filter fun (file, _) => file ≠ place }

/-- The tree with more text at the end of the file at a place. -/
def append (tree : FileTree) (place : Place) (text : String) : FileTree :=
  { tree with files := tree.files.map fun (file, old) => (file, if file = place then old ++ text else old) }

end FileTree

end CanBus.Console
