import PromptRules.Data.Assoc
import PromptRules.Text.PathName
import PromptRules.Text.Quoted

/-!
# Files

The files of a working directory as they are read: by path, as bytes, and as text. A path
leads step by step through directories; two points lead back to the one around. In a text
every way to end a line counts as a line feed. Permissions, links, and files that change while they
are used are left out.

Results:
* `unifyLines_of_no_return`: a text without carriage returns is kept.
-/

namespace PromptRules

open Data Text

/-- What is found under a path. -/
inductive FileContent where
  | bytes (data : ByteArray)
  | directory
  | missing
  /-- The path leads on from a file. -/
  | beyondFile
  /-- The path, or a name in it, is too long. -/
  | tooLong
  /-- The path holds a character that no name can hold. -/
  | unnameable

/-- The files and directories of a working directory, by their places. A place is a path on
    which two points stand at most in front. -/
abbrev Files := List (PathName × FileContent)

namespace Files

/-- The longest name of a file, in bytes. -/
def maxName : Nat := 255

/-- The longest path, in bytes. -/
def maxPath : Nat := 4095

/-- The directory around a place. -/
def around (place : PathName) : PathName :=
  match place.parts.getLast? with
  | none => if place.root = "" then { place with parts := [".."] } else place
  | some name =>
    if name = ".." then { place with parts := place.parts ++ [".."] }
    else { place with parts := place.parts.dropLast }

/-- The place that a name leads to from a directory. -/
def step (place : PathName) (name : String) : PathName :=
  if name = ".." then around place else { place with parts := place.parts ++ [name] }

/-- What is found at a place: what is known of it, or a directory if it is around the working
    directory or around something known. -/
def contentAt (files : Files) (place : PathName) : FileContent :=
  match Assoc.get? files place with
  | some content => content
  | none =>
    if place.parts.all (· == "..") then .directory
    else if files.any fun e => e.1.root == place.root && place.parts.isPrefixOf e.1.parts then
      .directory
    else if place.parts.getLast?.any fun name => maxName < name.utf8ByteSize then .tooLong
    else .missing

/-- The place that names lead to from a place, and what is found there. Only a directory leads
    on. -/
def walk (files : Files) (place : PathName) : List String → PathName × FileContent
  | [] => (place, contentAt files place)
  | name :: names =>
    match contentAt files place with
    | .directory => walk files (step place name) names
    | .bytes _ => (place, .beyondFile)
    | content => (place, content)

/-- Where a path starts. -/
def start (p : PathName) : PathName := { p with parts := [] }

/-- The place that a path leads to. -/
def place (files : Files) (p : PathName) : PathName := (walk files (start p) p.parts).1

/-- What is found under a path. -/
def look (files : Files) (p : PathName) : FileContent :=
  if p.text.toList.contains '\x00' then .unnameable
  else if maxPath < p.text.utf8ByteSize then .tooLong
  else (walk files (start p) p.parts).2

/-- The place that names lead to when directories are made along the way, and what is found
    there. A file on the way is found as such once a directory was made. -/
def make (files : Files) (isMade : Bool) (place : PathName) : List String → PathName × FileContent
  | [] => (place, contentAt files place)
  | name :: names =>
    match contentAt files place with
    | .directory => make files isMade (step place name) names
    | .missing => make files true (step place name) names
    | .bytes data => (place, if isMade then .bytes data else .beyondFile)
    | content => (place, content)

/-- The place of a directory that is made along a path, and what is found there. -/
def ground (files : Files) (p : PathName) : PathName × FileContent :=
  make files false (start p) p.parts

end Files

/-- Why a path cannot be read as a file. -/
inductive FileFault where
  | missing
  | isDirectory
  | beyondFile
  | tooLong
  | unnameable
deriving DecidableEq, Repr

/-- The wording of a file fault. -/
def FileFault.message (path : String) : FileFault → String
  | .missing => "[Errno 2] No such file or directory: " ++ quoted path
  | .isDirectory => "[Errno 21] Is a directory: " ++ quoted path
  | .beyondFile => "[Errno 20] Not a directory: " ++ quoted path
  | .tooLong => "[Errno 36] File name too long: " ++ quoted path
  | .unnameable => "embedded null byte"

/-- The bytes of a file. -/
def FileContent.read : FileContent → Except FileFault ByteArray
  | .bytes data => .ok data
  | .directory => .error .isDirectory
  | .missing => .error .missing
  | .beyondFile => .error .beyondFile
  | .tooLong => .error .tooLong
  | .unnameable => .error .unnameable

/-- Every way to end a line as a line feed. -/
def unifyLines : List Char → List Char
  | '\r' :: '\n' :: cs => '\n' :: unifyLines cs
  | '\r' :: cs => '\n' :: unifyLines cs
  | c :: cs => c :: unifyLines cs
  | [] => []

/-- A text with every way to end a line as a line feed. -/
def unified (s : String) : String := String.ofList (unifyLines s.toList)

theorem unifyLines_of_no_return {cs : List Char} (h : '\r' ∉ cs) : unifyLines cs = cs := by
  induction cs with
  | nil => rfl
  | cons c cs ih =>
    rw [List.mem_cons, not_or] at h
    have hc : c ≠ '\r' := Ne.symm h.1
    unfold unifyLines
    split <;> simp_all

end PromptRules
