import AgentCohort.Configuration
import AgentCohort.Log.Filter
import AgentCohort.Settings.Files

/-!
# Setting up the log

Which filter holds, whether log files are written besides the console, and what is said
about both on the standard error output.  The filter of the environment wins if it is
well formed; else the level of the settings gives the filter, and directives that are
not well formed are left out.
-/

namespace AgentCohort
namespace Program

open Settings (FileEntry FilePath)

/-- The files of a working directory. -/
abbrev Files : Type :=
  List (FilePath × FileEntry)

namespace Files

/-- Whether there is a file at a path. -/
def hasFile (files : Files) (path : FilePath) : Bool :=
  files.any fun file => file.1 == path && file.2 != .absent

/-- Where a directory lies that is made on the way if need be; a file in its way makes it
impossible. -/
def directory? (files : Files) : FilePath → FilePath → Option FilePath
  | here, [] => some here
  | here, name :: rest =>
    if name = ".." ∧ here ≠ [] then directory? files here.dropLast rest
    else if files.hasFile (here ++ [name]) then none
    else directory? files (here ++ [name]) rest

/-- Directories of the file system in which nobody can make others. -/
def sealedDirectories : List FilePath :=
  [["/", "proc"], ["/", "sys"], ["/", "dev", "null"]]

/-- Where a directory lies in which files can be written, if it is one. -/
def writableDirectory? (files : Files) (text : String) : Option FilePath :=
  let path := FilePath.ofText text
  if sealedDirectories.any fun directory => directory.isPrefixOf path then none
  else directory? files [] path

/-- Adds a name to a sorted list of names, once. -/
def insertName (name : String) : List String → List String
  | [] => [name]
  | other :: rest =>
    if name = other then other :: rest
    else if name < other then name :: other :: rest
    else other :: insertName name rest

/-- The names in a directory, sorted. -/
def names (files : Files) (directory : FilePath) : List String :=
  files.foldl
    (fun names file =>
      if directory.isPrefixOf file.1 then
        match file.1.drop directory.length with
        | name :: _ => insertName name names
        | [] => names
      else
        names)
    []

end Files

/-- How the log is set up. -/
structure LogSetup where
  /-- Which lines are written. -/
  filter : Log.Filter
  /-- Whether lines are written as JSON. -/
  isJson : Bool
  /-- Where log files are written. -/
  directory? : Option FilePath
  /-- What is said about it on the standard error output. -/
  remarks : List String

namespace LogSetup

/-- The variable that holds a filter. -/
def filterVariable : String := "RUST_LOG"

/-- The name of a log file before the date. -/
def fileName : String := "dcop-agent.log"

/-- The filter that holds, with remarks about directives that are left out. -/
def chooseFilter (filterText? : Option String) (level : String) : Log.Filter × List String :=
  match filterText?.bind Log.Filter.ofText? with
  | some filter => (filter, [])
  | none =>
    let (filter, faults) := Log.Filter.ofTextLossy (Log.Filter.standardText level)
    (filter, faults.map fun fault =>
      "ignoring \x60" ++ fault.1 ++ "\x60: " ++ fault.2.message)

/-- Sets up the log. -/
def ofSettings (files : Files) (filterText? : Option String) (settings : LoggingSettings) :
    LogSetup :=
  let (filter, ignored) := chooseFilter filterText? settings.level
  match settings.directory? with
  | none => ⟨filter, settings.json, none, ignored⟩
  | some directory =>
    match files.writableDirectory? directory with
    | some path =>
      ⟨filter, settings.json, some path,
        ignored ++ ["Logging to: " ++ directory ++ "/" ++ fileName]⟩
    | none =>
      ⟨filter, settings.json, none,
        ignored ++ ["Warning: Could not write to log directory " ++ directory ++
          ", file logging disabled"]⟩

/-- The files after the log has been set up on a given date. -/
def filesAfter (files : Files) (date : String) (setup : LogSetup) : Files :=
  match setup.directory? with
  | some path => files ++ [(path ++ [fileName ++ "." ++ date], .text "")]
  | none => files

end LogSetup
end Program
end AgentCohort
