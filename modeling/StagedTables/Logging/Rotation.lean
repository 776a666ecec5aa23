import StagedTables.FileStore

/-! # Rotating log files

A log file that would reach its size limit is first renamed, older ones moving up by one number
and the oldest falling away. -/
set_option autoImplicit false
namespace StagedTables.FileStore

def numbered (path : String) (number : Nat) : String := s!"{path}.{number}"

/-- Moves the older files up, the oldest first; `count` files are older. -/
def shiftUp (path : String) : (count : Nat) → FileStore → FileStore
  | 0, files => files
  | 1, files => files
  | count + 2, files =>
    shiftUp path (count + 1) (move files (numbered path (count + 1)) (numbered path (count + 2)))

/-- Renames a full file and starts it anew; without older files it just goes on. -/
def rotate (files : FileStore) (path : String) (backups : Nat) : FileStore :=
  if backups = 0 then files
  else touch (move (shiftUp path backups files) path (numbered path 1)) path

/-- Appends a line.  A positive limit is checked against the bytes there are and the characters
to come.  A line that cannot be written in bytes is lost, but not the rotation that made room. -/
def appendLine (files : FileStore) (path : String) (limit : Int) (backups : Nat) (line : String) :
    FileStore :=
  let text := line ++ "\n"
  let size := ((Fields.get? files path).getD "").utf8ByteSize
  let isFull : Bool := 0 < limit && limit ≤ (size + text.length : Nat)
  let ready := if isFull then rotate files path backups else files
  if Text.isEncodable line then append ready path text else ready

end StagedTables.FileStore
