import Remit.Text.Quoted

/-!
Files that settings are read from. What a path leads to is for the file system to say. A disk is the
file system of some files in directories, where absolute paths begin at the root and relative ones
in the working directory.
-/

namespace Remit.Settings

structure SystemError where
  number : Nat
  text : String
deriving DecidableEq

namespace SystemError

def isDirectory : SystemError := ⟨21, "Is a directory"⟩

def nameTooLong : SystemError := ⟨36, "File name too long"⟩

def message (path : String) (e : SystemError) : String :=
  s!"[Errno {e.number}] {e.text}: " ++ Text.quote path

end SystemError

inductive ReadError where
  | system (error : SystemError)
  /-- There is a file, but its bytes are no text. -/
  | notText
deriving DecidableEq

/-- What there is to read at a path, if there is anything. -/
abbrev FileSystem := String → Except ReadError (Option String)

namespace Path

def isAbsolute (path : String) : Bool :=
  ['/'].isPrefixOf path.toList

def splitSlashes : List Char → List (List Char)
  | [] => [[]]
  | c :: rest =>
      if c = '/' then [] :: splitSlashes rest
      else
        match splitSlashes rest with
        | part :: parts => (c :: part) :: parts
        | [] => [[c]]

def steps (path : String) : List String :=
  ((splitSlashes path.toList).map String.ofList).filter fun step => step ≠ "" && step ≠ "."

/-- Exactly two slashes at the front are kept, and more are one. -/
def root (path : String) : String :=
  if ['/', '/'].isPrefixOf path.toList && !(['/', '/', '/'].isPrefixOf path.toList) then "//"
  else "/"

/-- The path without steps that lead nowhere. -/
def plain (path : String) : String :=
  let plain := "/".intercalate (steps path)
  if isAbsolute path then root path ++ plain
  else if plain = "" then "."
  else plain

end Path

structure Disk where
  workingDirectory : List String
  files : List (String × String)

namespace Disk

def start (disk : Disk) (path : String) : List String :=
  if Path.isAbsolute path then [] else disk.workingDirectory

def place (disk : Disk) (path : String) : List String :=
  disk.start path ++ Path.steps path

def textAt? (disk : Disk) (place : List String) : Option String :=
  (disk.files.find? fun (path, _) => disk.place path = place).map (·.2)

/-- A directory holds files or the working directory, itself or in further directories. -/
def isDirectory (disk : Disk) (place : List String) : Bool :=
  place.isPrefixOf disk.workingDirectory ||
    disk.files.any fun (path, _) => place.isPrefixOf (disk.place path) && disk.place path ≠ place

def longestName : Nat := 255

def longestPath : Nat := 4095

/-- Step by step, from a directory to one that it holds or that holds it. Nothing holds the root. -/
def follow (disk : Disk) : List String → List String → Except ReadError (Option String)
  | place, [] =>
      match disk.textAt? place with
      | some text => .ok (some text)
      | none => if disk.isDirectory place then .error (.system .isDirectory) else .ok none
  | place, step :: rest =>
      if !disk.isDirectory place then .ok none
      else if step = ".." then disk.follow place.dropLast rest
      else if longestName < step.utf8ByteSize then .error (.system .nameTooLong)
      else disk.follow (place ++ [step]) rest

/-- No file has a zero character in its path. -/
def read (disk : Disk) : FileSystem := fun path =>
  if path.toList.contains '\x00' then .ok none
  else if longestPath < path.utf8ByteSize then .error (.system .nameTooLong)
  else disk.follow (disk.start path) (Path.steps path)

end Disk

end Remit.Settings
