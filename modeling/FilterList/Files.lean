import FilterList.Text.Utf8

/-!
Files by path. A tree of files kept in memory answers a path as a file system does, one component
after the other.
-/

namespace FilterList

/-- Why a file cannot be read. -/
inductive ReadError where
  | notFound
  | notADirectory
  | isADirectory
  | nameTooLong
  /-- The path holds the character that ends paths. -/
  | brokenName
  | other (message : String)
  deriving Repr, DecidableEq

def ReadError.message : ReadError → String
  | notFound => "No such file or directory (os error 2)"
  | notADirectory => "Not a directory (os error 20)"
  | isADirectory => "Is a directory (os error 21)"
  | nameTooLong => "File name too long (os error 36)"
  | brokenName => "file name contained an unexpected NUL byte"
  | other message => message

/-- What reading the file at a path gives. -/
abbrev Files := Text → Except ReadError Bytes

namespace Path

/-- The components of a path, without those that stand for the directory they are in. -/
def components (path : Text) : List Text :=
  (path.pieces '/').filter fun name => !name.isEmpty && name != ['.']

/-- The last component, unless it leads out of a directory. -/
def fileName (path : Text) : Text :=
  match (components path).getLast? with
  | some name => if name = "..".toList then [] else name
  | none => []

/-- Where one more component leads. A place is named by components from the working directory, in
which those that lead up stand first, one for each directory around it. -/
def descend (place : List Text) (name : Text) : List Text :=
  if name != "..".toList then place ++ [name]
  else match place.getLast? with
  | none => [name]
  | some last => if last = name then place ++ [name] else place.dropLast

/-- The places that components lead to, one after the other. -/
def trail (place : List Text) : List Text → List (List Text)
  | [] => []
  | name :: rest =>
    let next := descend place name
    next :: trail next rest

end Path

/-- Files and directories by their places. -/
structure FileTree where
  files : List (List Text × Bytes)
  directories : List (List Text)

/-- Where a path has led: to a place, or to the root, in which no name is known. -/
inductive Location where
  | place (place : List Text)
  | root
  deriving Repr, DecidableEq

namespace FileTree

/-- Puts a file into the tree, in place of one that was there. The directories on the way to it are
made, also those that the path leaves again. -/
def add (tree : FileTree) (path : Text) (bytes : Bytes) : FileTree :=
  let places := Path.trail [] (Path.components path)
  ⟨(places.getLastD [], bytes) :: tree.files, places.dropLast ++ tree.directories⟩

def ofPaths (files : List (Text × Bytes)) : FileTree :=
  files.foldl (fun tree (path, bytes) => tree.add path bytes) ⟨[], []⟩

def file? (tree : FileTree) (place : List Text) : Option Bytes := tree.files.lookup place

/-- The working directory and those around it are always there. -/
def hasDirectory (tree : FileTree) (place : List Text) : Bool :=
  place.all (· = "..".toList) || tree.directories.contains place

/-- Goes on by one part of a path. -/
def enter (tree : FileTree) (location : Location) (name : Text) : Except ReadError Location :=
  let stays := name.isEmpty || name = ['.']
  let leaves := name = "..".toList
  match location with
  | .root =>
    if stays || leaves then .ok .root
    else if name.utf8Length > 255 then .error .nameTooLong
    else .error .notFound
  | .place place =>
    if !tree.hasDirectory place then .error .notADirectory
    else if stays then .ok (.place place)
    else if name.utf8Length > 255 then .error .nameTooLong
    else
      let next := Path.descend place name
      if leaves || tree.hasDirectory next || (tree.file? next).isSome then .ok (.place next)
      else .error .notFound

/-- Follows a path, which leads from the root if it begins with a slash. -/
def resolve (tree : FileTree) (path : Text) : Except ReadError Location :=
  if path.contains '\x00' then .error .brokenName
  else if path.utf8Length > 4095 then .error .nameTooLong
  else match path with
  | [] => .error .notFound
  | '/' :: path => (Text.pieces '/' path).foldlM tree.enter .root
  | path => (Text.pieces '/' path).foldlM tree.enter (.place [])

def read (tree : FileTree) : Files := fun path => do
  match ← tree.resolve path with
  | .root => throw .isADirectory
  | .place place =>
    match tree.file? place with
    | some bytes => return bytes
    | none => throw .isADirectory

end FileTree

end FilterList
