import LayeredConfig.Source.Environment
import LayeredConfig.Stack.Listing
import LayeredConfig.Stack.Validation

/-!
# Sessions

A source over the process environment reads it once, at the first question that it is asked, and
answers from what it read then. A session holds the sources of a stack with what they have read
so far, and the environment as it stands.

A query is answered by a stack of plain sources. The session shows each source as it is or, if it
has not read yet, as it would be after reading now. The events of the query then tell which
sources were asked, and those have read from there on.

* `Live.view`: the source that answers.
* `Live.ask`: a source after it was asked, and what reading left in the log.
* `Session.run`: a query on the stack of a session.
-/

namespace LayeredConfig

/-- A source in use. -/
inductive Live where
  /-- It answers from what it holds. -/
  | ready (source : Source)
  /-- It reads the environment when it is asked. -/
  | waiting (name : String) (read : Environment → Logged Source)

namespace Live

def name : Live → String
  | ready source => source.name
  | waiting name _ => name

/-- The source that answers while the environment is `env`. -/
def view (env : Environment) : Live → Source
  | ready source => source
  | waiting _ read => (read env).result

/-- The source after a question, and the events of reading. -/
def ask (env : Environment) : Live → Logged Live
  | ready source => ⟨.ready source, []⟩
  | waiting _ read => ⟨.ready (read env).result, (read env).events⟩

/-- A source over the environment. -/
def environment (r : EnvironmentReader) : Live := .waiting "env" r.read

@[simp] theorem view_ask (env env' : Environment) (l : Live) :
    (l.ask env).result.view env' = l.view env := by
  cases l <;> rfl

theorem result_ask_ask (env env' : Environment) (l : Live) :
    ((l.ask env).result.ask env').result = (l.ask env).result := by
  cases l <;> rfl

theorem events_ask_ask (env env' : Environment) (l : Live) :
    ((l.ask env).result.ask env').events = [] := by
  cases l <;> rfl

end Live

/-- The sources of a stack in use, and the environment. -/
structure Session where
  sources : List Live
  environment : Environment

namespace Session

/-- The stack that answers. -/
def view (s : Session) : Stack := s.sources.map (Live.view s.environment)

/-- Asks the first sources, as many as `count` says. -/
def askFirst (env : Environment) : Nat → List Live → Logged (List Live)
  | 0, sources => ⟨sources, []⟩
  | _, [] => ⟨[], []⟩
  | count + 1, live :: rest =>
    let first := live.ask env
    let others := askFirst env count rest
    ⟨first.result :: others.result, first.events ++ others.events⟩

/-- Puts the events of reading in front of the question that made a source read. -/
def settle (env : Environment) : List Event → List Live → Logged (List Live)
  | [], sources => ⟨sources, []⟩
  | .asked count :: rest, sources =>
    let asked := askFirst env count sources
    let others := settle env rest asked.result
    ⟨others.result, asked.events ++ .asked count :: others.events⟩
  | event :: rest, sources =>
    let others := settle env rest sources
    ⟨others.result, event :: others.events⟩

/-- Runs a query; the sources that it asked have read afterwards. -/
def run {α : Type} (s : Session) (query : Stack → Logged α) : Logged (α × Session) :=
  let answer := query s.view
  let settled := settle s.environment answer.events s.sources
  ⟨(answer.result, { s with sources := settled.result }), settled.events⟩

/-- Asks one source of the stack, by its place. -/
def runAt {α : Type} (s : Session) (place : Nat) (query : Source → α) :
    Option (Logged (α × Session)) :=
  (s.sources[place]?).map fun live =>
    let asked := live.ask s.environment
    ⟨(query (live.view s.environment), { s with sources := s.sources.set place asked.result }),
      asked.events⟩

/-- Changes the environment; sources that have read do not see it. -/
def withEnvironment (s : Session) (env : Environment) : Session := { s with environment := env }

end Session

end LayeredConfig
