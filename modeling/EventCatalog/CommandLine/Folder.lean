/-
# EventCatalog.CommandLine.Folder — the folder that a run is started in

A run finds its files by paths.  Such a path leads from the folder of the run to a file,
name by name; an empty name and a single dot stay where they are, and two dots lead back
to the folder above.  Names lead on from folders only, so a path that goes through a file,
or ends behind one with a slash, leads nowhere.

What lies outside the folder is unknown, and paths that lead there find nothing.
-/
import EventCatalog.Text.Split

set_option autoImplicit false

namespace EventCatalog.CommandLine

/-- A file by the names that lead to it. -/
abbrev Place := List String

/-- The files of a folder and of the folders in it, with their texts. -/
abbrev Folder := List (Place × String)

namespace Folder

/-- Whether a place is a folder: the folder itself, or one with a file further down. -/
def isFolder (folder : Folder) (place : Place) : Bool :=
  place.isEmpty || folder.any fun file => place.isPrefixOf file.1 && file.1 ≠ place

/-- The place that names lead to from another. -/
def follow (folder : Folder) (place : Place) : List String → Option Place
  | [] => some place
  | name :: rest =>
    if folder.isFolder place then
      if name = "" ∨ name = "." then folder.follow place rest
      else if name = ".." then
        if place.isEmpty then none else folder.follow place.dropLast rest
      else folder.follow (place ++ [name]) rest
    else none

/-- The place that a path leads to. -/
def place? (folder : Folder) (path : String) : Option Place :=
  if path.toList.head? = some '/' then none
  else folder.follow [] (Text.splitString '/' path)

/-- The text of the file that a path leads to. -/
def file? (folder : Folder) (path : String) : Option String :=
  (folder.place? path).bind fun place => List.lookup place folder

/-- The folder with files given by the paths to them. -/
def ofFiles (files : List (String × String)) : Folder :=
  files.map fun file =>
    ((Text.splitString '/' file.1).filter fun name => name ≠ "" && name ≠ ".", file.2)

end Folder

end EventCatalog.CommandLine
