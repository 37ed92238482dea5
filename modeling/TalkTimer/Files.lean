import TalkTimer.Text.Lines

/-!
# Files

What a directory holds, as a tree (`Entry`), and how a path finds a file in it
(`Entry.lookup`). A path is looked up from the working directory; everything outside of
that directory counts as missing. The rest of the library only asks where a path leads to
(`FileSystem`).
-/

namespace TalkTimer

/-- Why a path cannot be read as a text. -/
inductive ReadError
  | notFound
  | notDirectory
  | isDirectory
  | nameTooLong
  | notUtf8
  /-- Any other cause, as the system reports it. -/
  | other (report : Text)
  deriving DecidableEq, Repr

namespace ReadError

/-- The error as the system reports it. -/
def message : ReadError → Text
  | notFound => "No such file or directory (os error 2)".toList
  | notDirectory => "Not a directory (os error 20)".toList
  | isDirectory => "Is a directory (os error 21)".toList
  | nameTooLong => "File name too long (os error 36)".toList
  | notUtf8 => "stream did not contain valid UTF-8".toList
  | other report => report

end ReadError

/-- A file with its bytes, or why they cannot be read, or a directory with its entries by name. -/
inductive Entry
  | file (bytes : Except ReadError ByteArray)
  | directory (entries : List (Text × Entry))

namespace Entry

/-- What stands under a name. -/
def child? (name : Text) (entries : List (Text × Entry)) : Option Entry :=
  (entries.find? fun e => e.1 = name).map Prod.snd

/-- The names of a path. A slash at the end leaves an empty name. -/
def pathNames : Text → List Text
  | [] => [[]]
  | c :: t => if c = '/' then [] :: pathNames t else Text.growFirst c (pathNames t)

/-- Follow the names of a path from an entry; `above` holds the directories it lies in, innermost
first. -/
def follow (above : List Entry) (e : Entry) : List Text → Except ReadError Entry
  | [] => .ok e
  | name :: names =>
    match e with
    | .file _ => .error .notDirectory
    | .directory entries =>
      if name = [] ∨ name = ['.'] then follow above e names
      else if name = ['.', '.'] then
        match above with
        | [] => .error .notFound
        | p :: ps => follow ps p names
      else if 255 < Text.size name then .error .nameTooLong
      else match child? name entries with
        | none => .error .notFound
        | some e' => follow (e :: above) e' names

/-- What a path leads to from a working directory. -/
def lookup (root : Entry) (path : Text) : Except ReadError Entry :=
  match path with
  | [] => .error .notFound
  | '/' :: _ => .error .notFound
  | _ => follow [] root (pathNames path)

/-- Put a file under a path of names, with the directories it needs. -/
def insert (bytes : ByteArray) : List Text → List (Text × Entry) → List (Text × Entry)
  | [], entries => entries
  | [name], entries => entries.filter (fun e => e.1 ≠ name) ++ [(name, .file (.ok bytes))]
  | name :: names, entries =>
    let inner := match child? name entries with
      | some (.directory inner) => inner
      | _ => []
    entries.filter (fun e => e.1 ≠ name) ++ [(name, .directory (insert bytes names inner))]

/-- The directory that holds the given files. -/
def ofFiles (files : List (Text × ByteArray)) : Entry :=
  .directory (files.foldl (fun entries (path, bytes) => insert bytes (pathNames path) entries) [])

end Entry

/-! ### Reading through paths -/

/-- Where paths lead to. -/
structure FileSystem where
  resolve : Text → Except ReadError Entry

/-- The text that bytes stand for. -/
def decodeUtf8 (bytes : ByteArray) : Except ReadError Text :=
  match String.fromUTF8? bytes with
  | some s => .ok s.toList
  | none => .error .notUtf8

namespace FileSystem

/-- What paths lead to from a working directory. -/
def within (root : Entry) : FileSystem := ⟨root.lookup⟩

/-- The text of the file at a path. -/
def readText (files : FileSystem) (path : Text) : Except ReadError Text :=
  match files.resolve path with
  | .error e => .error e
  | .ok (.directory _) => .error .isDirectory
  | .ok (.file bytes) => bytes.bind decodeUtf8

/-- Whether a path leads to a file. -/
def isFile (files : FileSystem) (path : Text) : Bool :=
  match files.resolve path with
  | .ok (.file _) => true
  | _ => false

end FileSystem
end TalkTimer
