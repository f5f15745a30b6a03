import AgentCohort.Settings.Fault
import AgentCohort.Settings.JsonFile
import AgentCohort.Text.Blank
import AgentCohort.Toml.Document

/-!
# Settings files

A settings file is looked up by a name that may lack its extension.  A file of exactly
that name counts if its extension is known; otherwise the known extensions are tried
after the name, in an order that a hash map decides.  A file that does not exist, is of no
known kind or is no text sets nothing.  How files of TOML and of JSON are read is written
out; what the other kinds make of a text is left to the host.
-/

namespace AgentCohort
namespace Settings

/-- A way through directories: names and `..`, after `/` if it starts at the root of the
file system. -/
abbrev FilePath : Type :=
  List String

namespace FilePath

/-- Whether a text is a path from the root of the file system. -/
def isAbsolute (text : String) : Bool :=
  text.toList.head? = some '/'

/-- The names between the slashes of a text. -/
def namesOf (text : String) : List String :=
  (text.toList.splitOn '/').map String.ofList

/-- The path that a text writes; empty names and `.` lead nowhere. -/
def ofText (text : String) : FilePath :=
  let names := (namesOf text).filter fun name => name ≠ "" ∧ name ≠ "."
  if isAbsolute text then "/" :: names else names

/-- The path as a text. -/
def text (path : FilePath) : String :=
  match path with
  | "/" :: names => "/" ++ "/".intercalate names
  | names => "/".intercalate names

/-- A path written inside a directory. -/
def join (directory name : String) : String :=
  if isAbsolute name ∨ directory = "" then name else directory ++ "/" ++ name

/-- Whether a path is written as one of a directory, which no file has. -/
def namesDirectory (text : String) : Bool :=
  match (namesOf text).getLast? with
  | some name => name = "" || name = "."
  | none => true

end FilePath

/-- What is at a path. -/
inductive FileEntry where
  /-- No file. -/
  | absent
  /-- A file of text. -/
  | text (content : String)
  /-- A file of something else. -/
  | binary
  deriving DecidableEq, Repr

/-- The kinds of settings files. -/
inductive FileKind where
  /-- TOML. -/
  | toml
  /-- JSON. -/
  | json
  /-- YAML. -/
  | yaml
  /-- INI. -/
  | ini
  /-- RON. -/
  | ron
  /-- JSON5. -/
  | json5
  deriving DecidableEq, Repr

namespace FileKind

/-- All kinds. -/
def all : List FileKind :=
  [.toml, .json, .yaml, .ini, .ron, .json5]

/-- The extensions of a kind, in the order in which they are tried. -/
def extensions : FileKind → List String
  | .toml => ["toml"]
  | .json => ["json"]
  | .yaml => ["yaml", "yml"]
  | .ini => ["ini"]
  | .ron => ["ron"]
  | .json5 => ["json5"]

/-- The extension of a file name: what follows its last point, unless the point is its
first character. -/
def extensionOf? (name : String) : Option String :=
  match Text.splitLast? '.' name.toList with
  | some (_ :: _, after) => some (String.ofList after)
  | _ => none

/-- The kind of a file name with a known extension. -/
def ofName? (name : String) : Option FileKind :=
  (extensionOf? name).bind fun extension =>
    all.find? fun kind => kind.extensions.contains extension

end FileKind

/-- What settings files depend on apart from what is in them. -/
structure Formats where
  /-- The order in which the kinds are tried after a name without an extension.  A hash map
  decides it, so it may be another one whenever the program runs. -/
  order : List FileKind
  /-- The keys and values of a file of a kind other than TOML and JSON, if it is well
  formed. -/
  readOther? : FileKind → String → Option (List (String × Tree))

namespace Formats

/-- TOML and JSON come first, and nothing else is well formed. -/
def plain : Formats where
  order := FileKind.all
  readOther? _ _ := none

/-- The extensions with their kinds, in the order in which they are tried. -/
def extensions (formats : Formats) : List (FileKind × String) :=
  formats.order.flatMap fun kind => kind.extensions.map fun extension => (kind, extension)

/-- The keys and values of a file of a kind, if it is well formed. -/
def read? (formats : Formats) : FileKind → String → Option (List (String × Tree))
  | .toml => Toml.read?
  | .json => JsonFile.read?
  | kind => formats.readOther? kind

end Formats

/-- The files of a working directory and what they depend on. -/
structure FileStore where
  /-- What is at a path. -/
  entry : FilePath → FileEntry
  /-- What settings files depend on. -/
  formats : Formats

namespace FileStore

/-- Whether a path without `..` leads to a directory that holds some of the files. -/
def isDirectory (files : List (FilePath × FileEntry)) (path : FilePath) : Bool :=
  path.isEmpty || files.any fun file =>
    path.length < file.1.length && file.1.take path.length = path

/-- Where a path leads from a directory, if every directory on the way exists. -/
def resolve (files : List (FilePath × FileEntry)) : FilePath → FilePath → Option FilePath
  | here, [] => some here
  | here, name :: rest =>
    if name = ".." then
      if here.isEmpty then none else resolve files here.dropLast rest
    else if rest.isEmpty then
      some (here ++ [name])
    else if isDirectory files (here ++ [name]) then
      resolve files (here ++ [name]) rest
    else
      none

/-- The store with given files. -/
def ofFiles (files : List (FilePath × FileEntry)) : FileStore where
  entry path :=
    match resolve files [] path with
    | some place => (files.lookup place).getD .absent
    | none => .absent
  formats := .plain

end FileStore

/-- A settings file that was found. -/
structure SettingsFile where
  /-- Its path. -/
  path : FilePath
  /-- Its kind. -/
  kind : FileKind
  /-- What it holds. -/
  content : String
  deriving DecidableEq, Repr

namespace SettingsFile

/-- A file at a path, if it is a text. -/
def ofEntry? (path : FilePath) (kind : FileKind) (entry : FileEntry) :
    Option SettingsFile :=
  match entry with
  | .text content => some ⟨path, kind, content⟩
  | _ => none

/-- The path with an extension after its last name. -/
def withExtension (path : FilePath) (extension : String) : FilePath :=
  path.dropLast ++ [path.getLast?.getD "" ++ "." ++ extension]

/-- The first of some extensions for which there is a file with the extension appended. -/
def findExtended? (store : FileStore) (path : FilePath) :
    List (FileKind × String) → Option SettingsFile
  | [] => none
  | (kind, extension) :: rest =>
    match store.entry (withExtension path extension) with
    | .absent => findExtended? store path rest
    | entry => ofEntry? (withExtension path extension) kind entry

/-- The settings file for a path written as a text. -/
def find? (store : FileStore) (text : String) : Option SettingsFile :=
  let path := FilePath.ofText text
  let name := path.getLast?.getD ""
  match if FilePath.namesDirectory text then .absent else store.entry path with
  | .absent =>
    if name = "" ∨ name = ".." then none
    else findExtended? store path store.formats.extensions
  | entry =>
    match FileKind.ofName? name with
    | some kind => ofEntry? path kind entry
    | none => none

/-- The layer of a file, or the fault that it is not well formed. -/
def layer (formats : Formats) (file : SettingsFile) : Except Fault (List (String × Tree)) :=
  match formats.read? file.kind file.content with
  | some entries => .ok (Tree.entriesOfLayer file.path.text entries)
  | none => .error (.malformedFile file.path.text)

end SettingsFile
end Settings
end AgentCohort
