import TlsListener.Failure.Io

/-!
# Files by name

The files that a machine can read are the leaves of a tree of directories. A name is followed from
the directory in which the program runs, step by step; two points lead back to the directory above.
Of the directories around the one in which the program runs nothing is known but that they exist.
-/

namespace TlsListener

/-- A file, or a directory with what is in it by name. -/
inductive FileTree where
  | file (bytes : ByteArray)
  | directory (entries : List (String × FileTree))

namespace FileTree

/-- A tree with one more entry at the end of a path of directories, which are made where there are
none. Nothing can be put inside a file, and a directory that is there already keeps what it
holds. -/
def insert (tree : FileTree) (path : List String) (entry : FileTree) : FileTree :=
  match tree, path with
  | .file bytes, _ => .file bytes
  | .directory entries, [] =>
    match entry with
    | .file bytes => .file bytes
    | .directory _ => .directory entries
  | .directory entries, name :: inner =>
    let below := ((entries.find? fun e => e.1 == name).map Prod.snd).getD (.directory [])
    .directory ((name, below.insert inner entry) :: entries.filter fun e => e.1 != name)
termination_by path.length

/-- The longest step in a name, in bytes. -/
def maxStepSize : Nat := 255

/-- The longest name, in bytes. -/
def maxNameSize : Nat := 4095

/-- Where a name has led: into the directories from the innermost out, the last of them the one in
which the program runs, or to a file in the innermost. Outside that directory there are none. -/
structure Position where
  directories : List (List (String × FileTree))
  file : Option ByteArray

namespace Position

/-- The directory in which the program runs. -/
def start : FileTree → Position
  | .directory entries => ⟨[entries], none⟩
  | .file _ => ⟨[], none⟩

/-- What a directory holds under a name. -/
def find? (entries : List (String × FileTree)) (name : String) : Option FileTree :=
  (entries.find? fun entry => entry.1 == name).map Prod.snd

/-- One step of a name. -/
def step (position : Position) (name : String) : Except IoFailure Position :=
  if position.file.isSome then .error .notADirectory
  else if name == "." then .ok position
  else if name == ".." then .ok { position with directories := position.directories.drop 1 }
  else if maxStepSize < name.utf8ByteSize then .error .nameTooLong
  else match position.directories with
    | [] => .error .noSuchFile
    | entries :: outer =>
      match find? entries name with
      | none => .error .noSuchFile
      | some (.file bytes) => .ok { position with file := some bytes }
      | some (.directory inner) => .ok { position with directories := inner :: entries :: outer }

end Position

/-- The bytes of the file that a name leads to. A name that ends in a slash names a directory. -/
def read (tree : FileTree) (name : String) : Except IoFailure ByteArray := do
  if name.toList.contains (Char.ofNat 0) then throw .nulInName
  if name.isEmpty then throw .noSuchFile
  if maxNameSize < name.utf8ByteSize then throw .nameTooLong
  let origin := if name.startsWith "/" then ⟨[], none⟩ else Position.start tree
  let steps := (name.splitOn "/").filter (!·.isEmpty)
  let position ← steps.foldlM Position.step origin
  match position.file with
  | none => throw .isADirectory
  | some bytes => if name.endsWith "/" then throw .notADirectory else pure bytes

end FileTree

end TlsListener
