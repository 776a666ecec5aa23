/-! # File paths

Names of files with parts between slashes. -/
set_option autoImplicit false
namespace StagedTables.Path

def above : String := ".."

def parts (path : String) : List String :=
  ((path.toList.splitOn '/').map String.ofList).filter fun part => part != "" && part != "."

/-- Whether a path starts at the root of all files, not at the working directory. -/
def isRooted (path : String) : Bool := path.toList.head? == some '/'

def render (rooted : Bool) (parts : List String) : String :=
  let text := (if rooted then "/" else "") ++ "/".intercalate parts
  if text = "" then "." else text

def tidy (path : String) : String := render (isRooted path) (parts path)

def parent (path : String) : String := render (isRooted path) (parts path).dropLast

/-- Appends a part; two dots cancel the part before them, and above the root they do nothing. -/
def push (rooted : Bool) (kept : List String) (part : String) : List String :=
  if part ≠ above then kept ++ [part]
  else match kept.getLast? with
    | none => if rooted then [] else [above]
    | some last => if last = above then kept ++ [above] else kept.dropLast

/-- A path that also leaves out each part before two dots. -/
def resolved (path : String) : String :=
  let rooted := isRooted path
  render rooted ((parts path).foldl (push rooted) [])

def isInside (path : String) : Bool := !isRooted path && (parts path).head? != some above

/-- The end of the last part from its last dot on; a dot at either end of the part has none. -/
def suffix (path : String) : String :=
  let name := ((parts path).getLast?.getD "").toList
  let ending := (name.reverse.takeWhile (· != '.')).reverse
  if ending = [] ∨ name.length ≤ ending.length + 1 then "" else String.ofList ('.' :: ending)

def maxPartBytes : Nat := 255

def maxBytes : Nat := 4095

end StagedTables.Path
