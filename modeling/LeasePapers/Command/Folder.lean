import LeasePapers.Command.Storage

/-! Folders of text files, as a way of keeping them. A file is found by the names on the way to it;
the folders are those on the way to some file.
-/

namespace LeasePapers

/-- A folder: its files, each with the names on the way to it. -/
structure Folder where
  files : List (List Text × Text)

namespace Folder

/-- Whether a way leads to a folder. -/
def isFolder (folder : Folder) (way : List Text) : Bool :=
  way.isEmpty || folder.files.any (fun file => way.isPrefixOf file.1 && way != file.1)

/-- The text of the file that a way leads to. -/
def file? (folder : Folder) (way : List Text) : Option Text :=
  (folder.files.find? (fun file => file.1 = way)).map (·.2)

/-- The way after one more step of a path, from a folder. -/
def step (way : List Text) (name : Text) : Option (List Text) :=
  if name = [] ∨ name = ['.'] then some way
  else if name = ['.', '.'] then if way = [] then none else some way.dropLast
  else some (way ++ [name])

/-- Follows the steps of a path, from a way that leads somewhere. -/
def follow (folder : Folder) (way : List Text) : List Text → Except FileFault (List Text)
  | [] => .ok way
  | name :: rest =>
      if folder.isFolder way then
        match step way name with
        | some next =>
            if folder.isFolder next || (folder.file? next).isSome then folder.follow next rest
            else .error .missing
        | none => .error .missing
      else .error .notADirectory

/-- The steps of a path; a path from the root of the system leads out of the folder. -/
def steps? (path : Text) : Option (List Text) :=
  if path.head? = some '/' then none else some (Text.pieces (· == '/') path)

/-- Reads a file. -/
def read (folder : Folder) (path : Text) : Except FileFault Text :=
  match steps? path with
  | none => .error .missing
  | some steps =>
      (folder.follow [] steps).bind (fun way =>
        match folder.file? way with
        | some text => .ok text
        | none => .error .isADirectory)

/-- The folder with a file at the end of a way. -/
def put (folder : Folder) (way : List Text) (text : Text) : Folder :=
  ⟨(way, text) :: folder.files.filter (fun file => file.1 ≠ way)⟩

/-- Writes a file, whether it is there or not. Its folder must be there. -/
def write (folder : Folder) (path text : Text) : Except FileFault Folder :=
  let trimmed := (path.reverse.dropWhile (· == '/')).reverse
  match steps? path with
  | none => .error .missing
  | some _ =>
      let steps := Text.pieces (· == '/') trimmed
      (folder.follow [] steps.dropLast).bind (fun way =>
        if !folder.isFolder way then .error .notADirectory
        else
          match step way (steps.getLastD []) with
          | some next =>
              if folder.isFolder next || trimmed ≠ path then .error .isADirectory
              else .ok (folder.put next text)
          | none => .error .isADirectory)

/-- Folders as a way of keeping files. A file that cannot be written leaves its folder as it was. -/
def storage : Command.Storage Folder where
  read := read
  write folder path text :=
    match folder.write path text with
    | .ok written => (.ok (), written)
    | .error fault => (.error fault, folder)

end Folder

end LeasePapers
