import LayeredConfig.Session
import LayeredConfig.Source.CommandLine
import LayeredConfig.Source.Document
import LayeredConfig.Source.Table

/-!
# Building sessions

A session is built from sources in order of precedence, the highest first. Sources read their
data when they are added, those over the environment excepted. A default document that cannot be
read is skipped.
-/

namespace LayeredConfig

/-- The sources added so far, in order of precedence. -/
abbrev Builder := List Live

namespace Builder

/-- Adds a source below the ones so far. -/
def add (b : Builder) (source : Source) : Builder := b ++ [.ready source]

/-- Adds a table of pairs. -/
def addTable (b : Builder) (name : String) (pairs : List (String × String)) : Builder :=
  b.add (Table.ofList name pairs).source

/-- Adds the assignments of an argument list. -/
def addArguments (b : Builder) (arguments : List String) : Logged Builder := do
  return b.add (← CommandLine.ofArguments arguments)

/-- Adds the environment. -/
def addEnvironment (b : Builder) (reader : EnvironmentReader) : Builder :=
  b ++ [.environment reader]

/-- Adds a document that was read, under a name of its own if there is one. -/
def addDocument (b : Builder) (name : Option String) (read : Except ConfigError Document) :
    Except ConfigError Builder :=
  read.map fun d => b.add (name.elim d d.named).source

/-- Adds the default document of an application, or skips it. -/
def addDefaultDocument (b : Builder) (files : FileSystem) (directories : ApplicationDirectories)
    (application qualifier : String) : Logged Builder := do
  match ← Document.ofApplication files directories application qualifier
      Document.standardFile with
  | .ok d => return b.add d.source
  | .error e =>
    Logged.emit (.documentSkipped application e)
    return b

/-- The session of the sources. -/
def build (b : Builder) (env : Environment) : Logged Session := do
  Logged.emit (.stackBuilt (b.map Live.name))
  return ⟨b, env⟩

/-- The session of the environment and, below it, the default document of an application. -/
def buildDefault (files : FileSystem) (directories : ApplicationDirectories) (env : Environment)
    (application qualifier : String) : Logged Session := do
  let b ← addDefaultDocument (addEnvironment [] (.conventional none)) files directories application
    qualifier
  b.build env

end Builder

end LayeredConfig
