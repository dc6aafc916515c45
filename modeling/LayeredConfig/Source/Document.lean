import LayeredConfig.Files
import LayeredConfig.Log
import LayeredConfig.Source
import LayeredConfig.Yaml.Document
import LayeredConfig.Yaml.Flat

/-!
# Documents as sources

A document is flattened when it is read and answers from its dotted keys from then on. One that
comes from a file tells the canonical path of the file as the origin of every key, and one that
comes from a text tells its name.

* `Document.ofText`: reads a text.
* `Document.ofFile`: reads a file, within a limit on its size.
* `Document.ofApplication`: reads a file in the directory of an application. Where that is, is up to
  the platform, and so the directories are given.
-/

namespace LayeredConfig

/-- The directories of applications, each found by a qualifier and the name of the application.
There may be none. -/
abbrev ApplicationDirectories := String → String → Option String

/-- A flattened document. -/
structure Document where
  name : String
  path : Option String
  values : Dictionary String

namespace Document

/-- The name of a document that was given no other. -/
def standardName : String := "yaml-file"

/-- The greatest size of a file, in bytes. -/
def sizeLimit : Nat := 10 * 1024 * 1024

/-- The name of the file that is looked for by default. -/
def standardFile : String := "config.yaml"

def named (d : Document) (name : String) : Document := { d with name := name }

def source (d : Document) : Source :=
  .ofEntries d.name d.values id fun _ => d.path.getD d.name

/-- The document of a value. -/
def ofNode (node : Yaml.Node) : Document := ⟨standardName, none, node.flatten⟩

/-- Reads a text. -/
def ofText (text : String) : Except ConfigError Document :=
  match Yaml.Node.ofText text with
  | .ok node => .ok (ofNode node)
  | .error fault =>
    .error (.parse ("Failed to parse YAML: " ++ fault.message) (some fault.message))

/-- A failure to get at a document, and what is behind it. -/
def inaccessible (message : String) (cause : Option String) : ConfigError :=
  .source standardName message cause

/-- The last name of a path, as messages show it. -/
def shownName (path : String) : String := (fileName? path).getD "<unknown>"

/-- The text of a file, unless it is too large or no text. -/
def textAt (files : FileTree) (place : Place) : Except ConfigError String :=
  let refused (cause : String) : ConfigError :=
    inaccessible ("Failed to read configuration file: " ++ shownName (writePlace place)) cause
  match files.node? place with
  | some (.file content) =>
    if sizeLimit < content.size then
      .error (inaccessible
        ("Configuration file too large: " ++ toString content.size ++ " bytes (max " ++
          toString sizeLimit ++ " bytes)") none)
    else match String.fromUTF8? content with
      | some text => .ok text
      | none => .error (refused "the file is no text")
  | _ => .error (refused "not a file")

/-- Reads the file that a path leads to. -/
def ofFile (files : FileSystem) (path : String) : Logged (Except ConfigError Document) :=
  match files.resolve path with
  | none =>
    pure (.error (inaccessible ("Invalid or inaccessible path: " ++ shownName path)
      (some "the path leads nowhere")))
  | some place =>
    match (textAt files.toFileTree place).bind ofText with
    | .error e => pure (.error e)
    | .ok document => do
      Logged.emit (.documentRead document.values.size (writePlace place))
      return .ok { document with path := some (writePlace place) }

/-- Reads a file in the directory of an application. -/
def ofApplication (files : FileSystem) (directories : ApplicationDirectories)
    (application qualifier file : String) : Logged (Except ConfigError Document) :=
  match directories qualifier application with
  | none => pure (.error (inaccessible "Failed to determine project directories" none))
  | some directory => ofFile files (joinPath directory file)

end Document

end LayeredConfig
