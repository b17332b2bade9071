import DesignCompiler.Json.Decoder
import DesignCompiler.Output.Store
import DesignCompiler.Text.Lines

/-! A store with folders. A path is a list of names between slashes; writing a file makes the
folders above it. A file has nothing below it, and a folder can be neither read nor written. -/

namespace DesignCompiler.Output

/-- The folders and files below a root. Every file and folder stands in a listed folder or in the
root, which is not listed. -/
structure Directory where
  folders : List (List String)
  files : List (List String × String)
  deriving DecidableEq, Repr

namespace Directory

def empty : Directory := ⟨[], []⟩

/-- Why a path cannot be used. -/
inductive PathError where
  /-- There is nothing of this name. -/
  | notFound
  /-- Something is wanted below a file. -/
  | notAFolder
  /-- The path names a folder where a file is wanted, or leaves the root. -/
  | notAFile
  /-- The name cannot be a file name. -/
  | badName
  deriving DecidableEq, Repr

def PathError.reason : PathError → String
  | notFound => "not found"
  | notAFolder => "not a folder"
  | notAFile => "not a file"
  | badName => "not a file name"

def isFolder (d : Directory) (p : List String) : Bool := p.isEmpty || d.folders.contains p

def file? (d : Directory) (p : List String) : Option String :=
  (d.files.find? (·.1 == p)).map (·.2)

/-- The longest name, in bytes. -/
def maxName : Nat := 255

/-- One step from a folder. Empty names and `.` stay where they are. -/
def step (d : Directory) (here : List String) (name : String) : Except PathError (List String) :=
  if !d.isFolder here then .error .notAFolder
  else if name == "" || name == "." then .ok here
  else if name == ".." then if here.isEmpty then .error .notAFile else .ok here.dropLast
  else if maxName < name.utf8ByteSize then .error .badName
  else .ok (here ++ [name])

/-- Follow names from a folder; all that they pass through has to exist. -/
def follow (d : Directory) (here : List String) : List String → Except PathError (List String)
  | [] => .ok here
  | name :: names =>
    match d.step here name with
    | .error e => .error e
    | .ok p =>
      if d.isFolder p || (d.file? p).isSome then d.follow p names
      else .error .notFound

/-- The names of a path. -/
def names (path : String) : List String := Text.splitAt '/' path

def isBadPath (path : String) : Bool := path.toList.contains '\x00'

/-- The content of a file; nothing when the path leads nowhere. -/
def read (d : Directory) (path : String) : Except StoreError (Option String) :=
  let fail (e : PathError) : Except StoreError (Option String) :=
    .error (.readFailed path e.reason)
  if isBadPath path then fail .badName
  else
    match d.follow [] (names path) with
    | .error .notFound => .ok none
    | .error e => fail e
    | .ok p =>
      match d.file? p with
      | some content => .ok (some content)
      | none => fail .notAFile

/-- Follow names from a folder and make the folders that are missing. -/
def makeFolders (d : Directory) (here : List String) :
    List String → Directory × Except PathError (List String)
  | [] => (d, if d.isFolder here then .ok here else .error .notAFolder)
  | name :: names =>
    match d.step here name with
    | .error e => (d, .error e)
    | .ok p =>
      if d.isFolder p then d.makeFolders p names
      else if (d.file? p).isSome then (d, .error .notAFolder)
      else { d with folders := d.folders ++ [p] }.makeFolders p names

/-- The names of the folder above a path: all but its last proper name. -/
def parentNames (ns : List String) : List String :=
  (ns.reverse.dropWhile fun n => n == "" || n == ".").tail.reverse

/-- Set the content of a file. -/
def setFile (p : List String) (content : String) :
    List (List String × String) → List (List String × String)
  | [] => [(p, content)]
  | (q, old) :: rest => if q == p then (q, content) :: rest else (q, old) :: setFile p content rest

/-- Write a file and make the folders above it. Folders that were made stay when writing fails. -/
def write (d : Directory) (path content : String) : Directory × Option StoreError :=
  let fail (d : Directory) (e : PathError) : Directory × Option StoreError :=
    (d, some (.writeFailed path e.reason))
  if isBadPath path then fail d .badName
  else
    match d.makeFolders [] (parentNames (names path)) with
    | (d, .error e) => fail d e
    | (d, .ok _) =>
      match d.follow [] (names path).dropLast, (names path).getLast? with
      | .ok folder, some name =>
        if name == "" || name == "." || name == ".." then fail d .notAFile
        else
          match d.step folder name with
          | .error e => fail d e
          | .ok p =>
            if d.isFolder p then fail d .notAFile
            else ({ d with files := setFile p content d.files }, none)
      | .error e, _ => fail d e
      | _, none => fail d .notAFile

instance : FileStore Directory where
  read := read
  write := write

end Directory

end DesignCompiler.Output
