/-!
# Documents

A program file is a text in UTF-8. `Directory` is a directory as paths that start
in it see it: it holds files. Of what is around it only that is known which is on every
system: the directories at the root and the null device.
-/

namespace ByteMachine.Console

/-- Why no text can be read from a path. -/
inductive ReadFailure where
  | notFound
  | notPermitted
  | notDirectory
  | isDirectory
  | nameTooLong
  | notText
  /-- Any other failure that the system reports. -/
  | system (details : String) (code : Nat)
  deriving DecidableEq, Repr

def ReadFailure.message : ReadFailure → String
  | notFound => "No such file or directory (os error 2)"
  | notPermitted => "Permission denied (os error 13)"
  | notDirectory => "Not a directory (os error 20)"
  | isDirectory => "Is a directory (os error 21)"
  | nameTooLong => "File name too long (os error 36)"
  | notText => "stream did not contain valid UTF-8"
  | system details code => details ++ " (os error " ++ toString code ++ ")"

def decodeText (bytes : ByteArray) : Except ReadFailure String :=
  match String.fromUTF8? bytes with
  | some text => .ok text
  | none => .error .notText

structure Directory where
  files : List (String × ByteArray)

namespace Directory

/-- Where the first part of a path leads. -/
inductive Place where
  | inside
  /-- A directory whose content is not known. -/
  | outside
  | root
  | devices
  | file (bytes : ByteArray)

/-- The directories at the root besides the one of devices. -/
def systemDirectories : List String :=
  ["bin", "boot", "etc", "home", "lib", "media", "mnt", "opt", "proc", "root", "run", "sbin",
    "srv", "sys", "tmp", "usr", "var"]

/-- Whether a part of a path leads nowhere else. -/
def staysIn (name : String) : Bool :=
  name = "" || name = "."

def maxNameLength : Nat := 255

def maxPathLength : Nat := 4095

def lookup? (directory : Directory) (place : Place) (name : String) : Option Place :=
  match place with
  | .inside => (directory.files.lookup name).map .file
  | .root =>
      if name = "dev" then some .devices
      else if systemDirectories.contains name then some .outside
      else none
  | .devices => if name = "null" then some (.file ByteArray.empty) else none
  | .outside | .file _ => none

/-- Follow one part of a path. -/
def follow (directory : Directory) (place : Place) (name : String) :
    Except ReadFailure Place :=
  match place with
  | .file _ => .error .notDirectory
  | place =>
      if staysIn name then .ok place
      else if name = ".." then
        .ok (match place with
          | .root | .devices => .root
          | _ => .outside)
      else if maxNameLength < name.utf8ByteSize then .error .nameTooLong
      else match directory.lookup? place name with
        | some place => .ok place
        | none => .error .notFound

def read (directory : Directory) (path : String) : Except ReadFailure String := do
  if path = "" then throw .notFound
  if maxPathLength < path.utf8ByteSize then throw .nameTooLong
  let parts := (path.toList.splitOn '/').map String.ofList
  let start := if path.startsWith "/" then .root else .inside
  match ← parts.foldlM directory.follow start with
  | .file bytes => decodeText bytes
  | _ => throw .isDirectory

end Directory
end ByteMachine.Console
