/-!
# Files

The files of a directory, and where a path leads in it.
-/

namespace TextProtocol.Cli

/-- Why a file cannot be read or a directory cannot be made. -/
inductive FileError where
  | notFound
  | isDirectory
  /-- A file stands where a directory is wanted on the way. -/
  | notDirectory
  | occupied
  | nameTooLong
  /-- A path holds the one character that no name may hold. -/
  | badName

def maxNameBytes : Nat := 255

def maxPathBytes : Nat := 4095

def isLongName (name : String) : Bool :=
  maxNameBytes < name.utf8ByteSize

/-- A path has to be short enough and free of the character that ends paths. -/
def checkPath (path : String) : Except FileError Unit :=
  if path.toList.contains '\x00' then .error .badName
  else if maxPathBytes < path.utf8ByteSize then .error .nameTooLong
  else .ok ()

def parts (path : String) : List String :=
  (path.splitOn "/").filter fun part ↦ part != "" && part != "."

def isAbsolute (path : String) : Bool :=
  path.startsWith "/"

def plainPath (path : String) : String :=
  match isAbsolute path, parts path with
  | true, ps => "/" ++ "/".intercalate ps
  | false, [] => "."
  | false, ps => "/".intercalate ps

def joinPath (path other : String) : String :=
  plainPath (if isAbsolute other then other else path ++ "/" ++ other)

def directoryOf (path : String) : String :=
  let parents := "/".intercalate (parts path).dropLast
  plainPath (if isAbsolute path then "/" ++ parents else parents)

/-- Where the parts of a path lead, from a place inside a directory; none if they lead out of it. -/
def place? (inside : List String) : List String → Option (List String)
  | [] => some inside
  | ".." :: rest => if inside.isEmpty then none else place? inside.dropLast rest
  | part :: rest => place? (inside ++ [part]) rest

structure Files where
  contents : List (List String × String) := []

namespace Files

def ofNames (files : List (String × String)) : Files where
  contents := files.map fun f ↦ (parts f.1, f.2)

def file? (files : Files) (place : List String) : Option String :=
  (files.contents.find? (·.1 == place)).map (·.2)

def hasDirectory (files : Files) (place : List String) : Bool :=
  place.isEmpty || files.contents.any fun f ↦ place.isPrefixOf f.1 && place != f.1

/-- The place that the parts of a path lead to. What stands before a part has to be a directory. -/
def follow (files : Files) (inside : List String) : List String → Except FileError (List String)
  | [] => .ok inside
  | part :: rest =>
    if (files.file? inside).isSome then .error .notDirectory
    else if !files.hasDirectory inside then .error .notFound
    else if part == ".." then
      if inside.isEmpty then .error .notFound else files.follow inside.dropLast rest
    else if isLongName part then .error .nameTooLong
    else files.follow (inside ++ [part]) rest

def read (files : Files) (path : String) : Except FileError String := do
  checkPath path
  if path.isEmpty then throw .notFound
  if isAbsolute path then
    throw (if ((parts path).head?).any isLongName then .nameTooLong else .notFound)
  let place ← files.follow [] (parts path)
  match files.file? place with
  | some text =>
    if path.endsWith "/" then throw .notDirectory
    else return text
  | none => throw (if files.hasDirectory place then .isDirectory else .notFound)

def isBlocked (files : Files) (place : List String) : Bool :=
  files.contents.any fun f ↦ f.1.isPrefixOf place

/-- Whether a directory can be made, with all that it stands in. What is in the way before a name
that is too long is met first. -/
def checkDirectory (files : Files) (path : String) : Except FileError Unit := do
  checkPath path
  let all := parts path
  let short := all.takeWhile (!isLongName ·)
  match place? [] short with
  | none => if short.length < all.length then throw .nameTooLong
  | some place =>
    if short.length < all.length then
      throw (if files.isBlocked place then .notDirectory else .nameTooLong)
    if (files.file? place).isSome then throw .occupied
    if files.isBlocked place then throw .notDirectory

def checkFile (files : Files) (path : String) : Except FileError Unit := do
  checkPath path
  let all := parts path
  if all.any isLongName then throw .nameTooLong
  if (place? [] all).any files.hasDirectory then throw .isDirectory

end Files

/-- Where a run finds files, may make directories and may write files. -/
structure Disk where
  read : String → Except FileError String
  checkDirectory : String → Except FileError Unit
  checkFile : String → Except FileError Unit

def Files.disk (files : Files) : Disk where
  read := files.read
  checkDirectory := files.checkDirectory
  checkFile := files.checkFile

/-- Text with all line ends as line feeds. -/
def unixLines : List Char → List Char
  | [] => []
  | '\r' :: '\n' :: rest => '\n' :: unixLines rest
  | c :: rest => (if c == '\r' then '\n' else c) :: unixLines rest

/-- The plain spelling of a path to a file inside the directory; none if it is outside. -/
def insidePath? (path : String) : Option String :=
  if isAbsolute path then none else (place? [] (parts path)).map ("/".intercalate ·)

end TextProtocol.Cli
