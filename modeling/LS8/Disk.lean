-- A disk held in memory. It tells what reading a file by its name gives, and why
-- a name leads to no file.

import LS8.Files

namespace LS8

/-- The way to a file or a directory from the top, name by name. -/
abbrev Path := List String

/-- The place that one part of a file name leads to. Above the top is the top. -/
def Path.step (place : Path) (part : String) : Path :=
  if part = "" ∨ part = "." then place
  else if part = ".." then place.dropLast
  else place ++ [part]

structure Disk where
  /-- Of two files at one path the first counts. -/
  files : List (Path × ByteArray) := []
  /-- Directories that are there whether or not a file is in them. -/
  directories : List Path := []
  /-- The directory in which names start that do not start at the top. -/
  here : Path := []

namespace Disk

/-- The most bytes that a file name may have. -/
def longestName : Nat := 4095

/-- The most bytes that a part of a file name may have. -/
def longestPart : Nat := 255

/-- The parts of a file name between its slashes. -/
def parts (name : String) : List String := name.splitOn "/"

def start (d : Disk) (name : String) : Path := if name.startsWith "/" then [] else d.here

/-- Writes a file. -/
def put (d : Disk) (name : String) (content : ByteArray) : Disk :=
  { d with files := ((parts name).foldl Path.step (d.start name), content) :: d.files }

/-- The file at a path. -/
def file? (d : Disk) (path : Path) : Option ByteArray := d.files.lookup path

/-- Whether a path leads to a directory: one that is named, or one on the way to
something else. -/
def hasDirectory (d : Disk) (path : Path) : Bool :=
  path.isPrefixOf d.here
    || d.directories.any (path.isPrefixOf ·)
    || d.files.any fun file => path.isPrefixOf file.1 && path.length < file.1.length

/-- Follows the rest of a name from the place already reached. A file has no inside, not even
itself. -/
def follow (d : Disk) (place : Path) : List String → Except FileError ByteArray
  | [] =>
    match d.file? place with
    | some bytes => .ok bytes
    | none => .error .isDirectory
  | part :: rest =>
    if (d.file? place).isSome then .error .notDirectory
    else if longestPart < part.utf8ByteSize then .error .nameTooLong
    else
      let next := place.step part
      if (d.file? next).isSome || d.hasDirectory next then d.follow next rest
      else .error .notFound

/-- Reads the file with a name. A name that is too long is not looked at any further. -/
def read (d : Disk) : Reader := fun name =>
  if name.isEmpty then .error .notFound
  else if longestName < name.utf8ByteSize then .error .nameTooLong
  else d.follow (d.start name) (parts name)

end Disk

end LS8
