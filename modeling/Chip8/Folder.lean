import Chip8.Files

/-!
# A folder to work in

Files without a file system: a folder that holds files and no further folders. Paths are looked
up part by part from the folder or from the root. Of what lies outside only the folders that
every system has below its root are known, and the null device in one of them.
-/

namespace Chip8

structure Folder where
  files : List (String × List Byte)
  deriving DecidableEq, Repr

/-- What is known of a folder. -/
inductive Site where
  | here
  /-- Some folder above the one to work in. -/
  | above
  | root
  | devices
  /-- Another folder below the root. -/
  | standard
  deriving DecidableEq, Repr

/-- What a path leads to. -/
inductive Place where
  | folder (site : Site)
  /-- A name in the folder to work in, whether there is such a file or not. -/
  | file (name : String)
  | nullDevice
  /-- A name elsewhere that stands for nothing. -/
  | missing
  deriving DecidableEq, Repr

namespace Site

def parent : Site → Site
  | here | above => above
  | root | devices | standard => root

def standardNames : List String :=
  ["bin", "boot", "etc", "home", "lib", "lib64", "media", "mnt", "opt", "proc", "root", "run",
    "sbin", "srv", "sys", "tmp", "usr", "var"]

/-- What a name stands for. -/
def lookup (site : Site) (name : String) : Place :=
  match site with
  | here => .file name
  | root =>
    if name = "dev" then .folder .devices
    else if name ∈ standardNames then .folder .standard
    else .missing
  | devices => if name = "null" then .nullDevice else .missing
  | above | standard => .missing

/-- Where one part of a path leads from a folder. -/
def enter (site : Site) (part : String) : Except FileError Place :=
  if part = "" ∨ part = "." then .ok (.folder site)
  else if part = ".." then .ok (.folder site.parent)
  else if 255 < part.utf8ByteSize then .error .nameTooLong
  else .ok (site.lookup part)

end Site

namespace Folder

def file? (f : Folder) (name : String) : Option (List Byte) := f.files.lookup name

/-- The folder at a place. -/
def site (f : Folder) : Place → Except FileError Site
  | .folder site => .ok site
  | .file name => if (f.file? name).isSome then .error .notDirectory else .error .notFound
  | .nullDevice => .error .notDirectory
  | .missing => .error .notFound

/-- Where the parts of a path lead from a place. Each part needs a folder to be looked up in. -/
def walk (f : Folder) (start : Place) (parts : List String) : Except FileError Place :=
  parts.foldlM (fun place part => do (← f.site place).enter part) start

/-- Where a path begins, and its parts. -/
def partsOf (path : String) : Place × List String :=
  match (path.toList.splitOn '/').map String.ofList with
  | "" :: parts => (.folder .root, parts)
  | parts => (.folder .here, parts)

/-- The place of a path. The empty path leads nowhere. -/
def locate (f : Folder) (path : String) : Except FileError Place := do
  let path ← checkPath path
  if path = "" then throw .notFound
  let (start, parts) := partsOf path
  f.walk start parts

/-- The place of a path under which a file can be made. A path that ends in a slash is one of a
folder, whether it is there or not. -/
def locateNew (f : Folder) (path : String) : Except FileError Place := do
  if path.toList.getLast? = some '/' then
    let (start, parts) := partsOf (← checkPath path)
    let named := parts.reverse.dropWhile (· = "")
    let _ ← f.site (← f.walk start (named.drop 1).reverse)
    throw .isDirectory
  else f.locate path

def read (f : Folder) (path : String) : Except FileError (List Byte) := do
  match ← f.locate path with
  | .folder _ => throw .isDirectory
  | .file name => (f.file? name).elim (throw .notFound) pure
  | .nullDevice => return []
  | .missing => throw .notFound

/-- Files that are made elsewhere are forgotten. -/
def create (f : Folder) (path : String) : Except FileError Folder := do
  match ← f.locateNew path with
  | .folder _ => throw .isDirectory
  | .file name => return ⟨(name, []) :: f.files⟩
  | .nullDevice | .missing => return f

instance : MonadFiles (StateM Folder) where
  read path := fun f => (f.read path, f)
  create path := fun f =>
    match f.create path with
    | .error e => (.error e, f)
    | .ok f => (.ok (), f)

end Folder

end Chip8
