import Chip8.Word

/-!
# Files

The two things that the programs do to files: to read one and to start one anew. Both can fail
for what the path says or for where it leads.
-/

namespace Chip8

inductive FileError where
  | notFound
  | notDirectory
  | isDirectory
  | nameTooLong
  /-- The path has a character that ends a path for the operating system. -/
  | nullInPath
  /-- The file was read and is no text. -/
  | notText
  | other (message : String)
  deriving DecidableEq, Repr

def FileError.message : FileError → String
  | notFound => "No such file or directory (os error 2)"
  | notDirectory => "Not a directory (os error 20)"
  | isDirectory => "Is a directory (os error 21)"
  | nameTooLong => "File name too long (os error 36)"
  | nullInPath => "file name contained an unexpected NUL byte"
  | notText => "stream did not contain valid UTF-8"
  | other message => message

/-- A path that can be looked up. Its bytes and the one that ends it fit into 4096. -/
def checkPath (path : String) : Except FileError String :=
  if path.toList.contains '\x00' then .error .nullInPath
  else if 4096 ≤ path.utf8ByteSize then .error .nameTooLong
  else .ok path

class MonadFiles (m : Type → Type) where
  read : String → m (Except FileError (List Byte))
  /-- Makes an empty file, in place of one that is there. -/
  create : String → m (Except FileError Unit)

end Chip8
