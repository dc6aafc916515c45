import LayeredConfig.Proofs.Stack.Records
import LayeredConfig.Session
import LayeredConfig.Source.Table

/-!
# The log of a session

A session puts what its sources say while they read among the records of the query that made them
read. Sources that say nothing add nothing. But a query changes the session, so that it leaves its
own records only has to be shown together with what the next query needs: the sources answer as
they did before, and still say nothing.

* `Live.Quiet`, `Session.Quiet`: reading leaves no records.
* `Session.Continues`: what a query preserves.
* `Session.settle_of_quiet`, `Session.run_of_quiet`: one query, by the events of its answer.
* `Session.runAll_of_quiet`, `Session.log_mirrors_every_outcome`: a sequence of queries.
-/

namespace LayeredConfig

/-! ## Quiet sources -/

/-- A source that leaves no records when it is asked. -/
def Live.Quiet (l : Live) : Prop := ∀ env, (l.ask env).log = []

theorem Live.quiet_ready (source : Source) : (Live.ready source).Quiet := fun _ => rfl

/-- A source that was asked has read, and says nothing from there on. -/
theorem Live.quiet_ask (env : Environment) (l : Live) : (l.ask env).result.Quiet := by
  intro env'
  rw [Logged.log, l.events_ask_ask]
  rfl

namespace Session

/-- All sources are quiet. -/
def Quiet (s : Session) : Prop := ∀ l ∈ s.sources, l.Quiet

/-- What holds of a quiet session when it is asked: it goes on to answer as it did, and stays
quiet. -/
structure Continues (s later : Session) : Prop where
  view : later.view = s.view
  quiet : later.Quiet

theorem Continues.trans {s later last : Session} (h : s.Continues later)
    (h' : later.Continues last) : s.Continues last :=
  ⟨h'.view.trans h.view, h'.quiet⟩

/-! ## One query -/

variable {env : Environment} {sources : List Live}

theorem askFirst_of_quiet (h : Quiet ⟨sources, env⟩) (count : Nat) :
    (askFirst env count sources).log = [] ∧
      Continues ⟨sources, env⟩ ⟨(askFirst env count sources).result, env⟩ := by
  fun_induction askFirst env count sources with
  | case1 sources => exact ⟨rfl, rfl, h⟩
  | case2 => exact ⟨rfl, rfl, h⟩
  | case3 count live rest first others ih =>
    obtain ⟨hlive, hrest⟩ := List.forall_mem_cons.mp h
    obtain ⟨hlog, hview, hquiet⟩ := ih hrest
    refine ⟨?_, ?_, ?_⟩
    · have hfirst : records first.events = [] := hlive env
      have hothers : records others.events = [] := hlog
      rw [Logged.log, records_append, hfirst, hothers]
      rfl
    · exact congrArg₂ List.cons (Live.view_ask env env live) hview
    · exact List.forall_mem_cons.mpr ⟨live.quiet_ask env, hquiet⟩

/-- The events of reading stand in front of the question, and there are no records among them. -/
theorem settle_of_quiet (h : Quiet ⟨sources, env⟩) (events : List Event) :
    (settle env events sources).log = records events ∧
      Continues ⟨sources, env⟩ ⟨(settle env events sources).result, env⟩ := by
  fun_induction settle env events sources with
  | case1 sources => exact ⟨rfl, rfl, h⟩
  | case2 count rest sources asked others ih =>
    obtain ⟨hasked, hcontinues⟩ := askFirst_of_quiet h count
    obtain ⟨hlog, hothers⟩ := ih hcontinues.quiet
    refine ⟨?_, hcontinues.trans hothers⟩
    have hreading : records asked.events = [] := hasked
    have hrest : records others.events = records rest := hlog
    rw [Logged.log, records_append, records_cons, records_cons, hreading, hrest]
    rfl
  | case3 event rest sources hnot others ih =>
    obtain ⟨hlog, hothers⟩ := ih h
    refine ⟨?_, hothers⟩
    have hrest : records others.events = records rest := hlog
    rw [Logged.log, records_cons, records_cons, hrest]

theorem run_of_quiet {s : Session} (h : s.Quiet) {γ : Type} (query : Query γ) :
    s.Continues (s.run (·.answer query)).result.2 ∧
      (s.run (·.answer query)).log = s.view.records query := by
  obtain ⟨hlog, hcontinues⟩ := settle_of_quiet h (s.view.answer query).events
  exact ⟨hcontinues, hlog.trans (s.view.log_answer query)⟩

/-! ## Sequences of queries -/

/-- A query with an answer of some type. -/
structure SomeQuery where
  {Answer : Type}
  query : Query Answer

/-- Runs queries one after the other. -/
def runAll (s : Session) (queries : List SomeQuery) : Logged Session :=
  queries.foldlM (fun s q => do return (← s.run (·.answer q.query)).2) s

theorem runAll_of_quiet {s : Session} (h : s.Quiet) (queries : List SomeQuery) :
    s.Continues (s.runAll queries).result ∧
      (s.runAll queries).log = queries.flatMap fun q => s.view.records q.query := by
  refine Logged.log_foldlM s.Continues ?_ ⟨rfl, h⟩ queries
  intro later q hcontinues
  obtain ⟨hnext, hlog⟩ := run_of_quiet hcontinues.quiet q.query
  refine ⟨hcontinues.trans hnext, ?_⟩
  rw [Logged.log_bind, Logged.log_pure, List.append_nil, hlog, hcontinues.view]

/-- **The log mirrors the outcome of every query.** Where the sources say nothing, a sequence of
queries leaves the records of each query, one query after the other, and changes no answer. Views
of all keys resolve them in increasing order. A report has for each requirement what it would be
reported for alone, and its failures are the warnings of the validation, in order. -/
theorem log_mirrors_every_outcome (s : Session) (h : s.Quiet) (queries : List SomeQuery) :
    (s.runAll queries).log = (queries.flatMap fun q => s.view.records q.query) ∧
      (s.runAll queries).result.view = s.view ∧
      s.view.keys.result.toList.Pairwise (· < ·) ∧
      ∀ requirements,
        (s.view.validate requirements).result.failures =
            (requirements.flatMap fun r => (s.view.validate [r]).result.failures) ∧
          (s.run (·.validate requirements)).log.filter (·.level = .warn) =
            (s.run (·.validate requirements)).result.1.failures.map (·.complaint) := by
  obtain ⟨hcontinues, hlog⟩ := runAll_of_quiet h queries
  refine ⟨hlog, hcontinues.view, s.view.listedKeys.pairwise_toList, fun requirements => ⟨?_, ?_⟩⟩
  · exact s.view.failures_validate requirements
  · have hrun : (s.run (·.validate requirements)).log = s.view.records (.validate requirements) :=
      (run_of_quiet h (.validate requirements)).2
    rw [hrun, ← Stack.log_answer]
    exact s.view.warnings_validate requirements

/-- A session with a table of flags, one of which is no truth value, above a table of defaults. -/
def flagSession : Session where
  sources :=
    [.ready (Table.ofList "flags" [("debug", "maybe")]).source,
      .ready (Table.ofList "defaults" [("debug", "no"), ("host", "localhost")]).source]
  environment := []

/-- Queries for a flag that is refused and for keys that no source has. -/
def flagQueries : List SomeQuery :=
  [⟨.get (Property.nullable "debug" .boolean)⟩,
    ⟨.getLenient (Property.valued "debug" .boolean false)⟩,
    ⟨.provides "port"⟩,
    ⟨.listing⟩,
    ⟨.validate [⟨"port", fun _ => .ok ()⟩, (Property.nullable "debug" .boolean).requirement]⟩]

theorem log_of_flagQueries :
    flagSession.Quiet ∧ (flagSession.runAll flagQueries).log =
      let resolved : Record := ⟨.trace, "Resolved key 'debug' from source 'flags'"⟩
      let reason := "Unable to parse 'maybe' as Boolean: " ++
        "Expected one of true, false, yes, no, on, off, 1, 0."
      [resolved, ⟨.warn, "Property 'debug' from source 'flags' is invalid: " ++ reason⟩,
        resolved,
        ⟨.debug, "Using default for 'debug' after invalid value from source 'flags': " ++ reason⟩,
        resolved, ⟨.trace, "Resolved key 'host' from source 'defaults'"⟩,
        ⟨.trace, "Key 'port' is not provided by any source"⟩,
        resolved, ⟨.warn, "Validation failed for 'debug' from source 'flags': " ++ reason⟩] := by
  have hquiet : flagSession.Quiet :=
    List.forall_mem_cons.mpr ⟨Live.quiet_ready _, List.forall_mem_singleton.mpr
      (Live.quiet_ready _)⟩
  refine ⟨hquiet, (log_mirrors_every_outcome flagSession hquiet flagQueries).1.trans ?_⟩
  rfl

end Session

end LayeredConfig
