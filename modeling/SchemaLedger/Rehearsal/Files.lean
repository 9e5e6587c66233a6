import SchemaLedger.Durable.Opening
import SchemaLedger.Settings.Reader

namespace SchemaLedger

inductive File
  | directory
  | bytes (contents : List UInt8)
  | database (contents : Database)

/-- Files by the names on the way to them from the root. -/
structure Files where
  entries : List (List String × File)
  home : List String

namespace Files

def find? (files : Files) (way : List String) : Option File :=
  if way = [] then some .directory else files.entries.lookup way

def put (files : Files) (way : List String) (file : File) : Files :=
  { files with entries := (way, file) :: files.entries.filter fun e => e.1 ≠ way }

def erase (files : Files) (way : List String) : Files :=
  { files with entries := files.entries.filter fun e => e.1 ≠ way }

/-- A device that swallows what is written to it and the directories above the home. -/
def ofHome (home : List String) : Files where
  entries := (["dev", "null"], .bytes []) ::
    ((["dev"] :: (List.range home.length).map fun n => home.take (n + 1)).map (·, .directory))
  home := home

/-- The names in a path; empty ones and dots lead nowhere. -/
def names (path : String) : List String :=
  ((splitAtEach (· == '/') path.toList).map String.ofList).filter fun n => n ≠ "" && n ≠ "."

/-- Where a path begins. -/
def origin (files : Files) (path : String) : List String :=
  if startsWith "/" path then [] else files.home

/-- Follows names, each of which has to stand in a directory. -/
def follow (files : Files) (way : List String) : List String → Except FileFault (List String)
  | [] => .ok way
  | name :: rest =>
    match files.find? way with
    | none => .error .absent
    | some .directory => files.follow (if name = ".." then way.dropLast else way ++ [name]) rest
    | some _ => .error .notADirectory

/-- Paths of this length in bytes are too long for any file. -/
def tooLong : Nat := 4096

/-- The file at a path, and the way to it. Only a directory may have a slash behind its name. -/
def locate (files : Files) (path : String) : Except FileFault (List String × File) :=
  if path.toList.contains '\x00' then .error .nameWithNul
  else if tooLong ≤ path.utf8ByteSize then .error .nameTooLong
  else if path = "" then .error .absent
  else do
    let way ← files.follow (files.origin path) (names path)
    match files.find? way with
    | none => .error .absent
    | some .directory => .ok (way, .directory)
    | some file =>
      if endsWith "/" path || endsWith "/." path then .error .notADirectory else .ok (way, file)

/-- The bytes of a file. What databases are made of is no text. -/
def read (files : Files) (path : String) : Except FileFault (List UInt8) :=
  match files.locate path with
  | .error fault => .error fault
  | .ok (_, .directory) => .error .isADirectory
  | .ok (_, .bytes contents) => .ok contents
  | .ok (_, .database _) => .ok [0xFF]

/-- Makes the directories on a way, unless a file stands in it. -/
def makeDirectories (files : Files) (way : List String) : List String → Option Files
  | [] => some files
  | name :: rest =>
    if name = ".." then files.makeDirectories way.dropLast rest
    else
      let way := way ++ [name]
      match files.find? way with
      | none => (files.put way .directory).makeDirectories way rest
      | some .directory => files.makeDirectories way rest
      | some _ => none

/-- How many bytes the name of a file may have. -/
def longestName : Nat := 255

/-- A database needs room behind its name for the names of the files that it keeps beside itself. -/
def hasRoom (way : List String) : Bool :=
  let room := 8
  way.foldl (fun total name => total + (name.utf8ByteSize + 1)) room ≤ 512 &&
    (way.getLast?).all fun name => name.utf8ByteSize + room ≤ longestName

def cannotOpen : Place := .unusable "unable to open database file"

/-- What stands where a database is wanted, once there are directories for it. -/
structure Site where
  place : Place
  database : Database
  files : Files

def site (files : Files) (path : String) : Site :=
  match files.locate path with
  | .ok (_, .directory) => ⟨.directory, .blank, files⟩
  | _ =>
    match files.makeDirectories (files.origin path) (names path).dropLast with
    | none => ⟨.unreachable FileFault.notADirectory.message, .blank, files⟩
    | some files =>
      match files.locate path with
      | .ok (_, .database database) => ⟨.available, database, files⟩
      | .ok (_, .bytes []) => ⟨.available, .blank, files⟩
      | .ok (_, .bytes _) => ⟨.unusable "file is not a database", .blank, files⟩
      | .error .absent =>
        match files.follow (files.origin path) (names path) with
        | .ok way => ⟨if hasRoom way then .available else cannotOpen, .blank, files⟩
        | .error _ => ⟨cannotOpen, .blank, files⟩
      | _ => ⟨cannotOpen, .blank, files⟩

/-- Keeps a database at a path. -/
def keepDatabase (files : Files) (path : String) (database : Database) : Files :=
  match files.follow (files.origin path) (names path) with
  | .ok way => files.put way (.database database)
  | .error _ => files

end Files

end SchemaLedger
