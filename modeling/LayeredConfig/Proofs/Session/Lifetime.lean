import LayeredConfig.Proofs.Session.Quiet
import LayeredConfig.Proofs.Source.Snapshot

/-!
# One snapshot for life

Three moments matter for a source over the environment: when it is added, when it is asked for the
first time, and when it is asked again. It reads at the second one. Whatever is set or removed
before is what it reads, and whatever is set or removed after makes no difference, in whichever
order changes and questions come, and whether it is asked by itself or by a query on the stack.

A query stops at the first source that has the key, so it need not reach a source of the stack. What
an action does to the source at a place is therefore told by whether it asks that place, and this
is told by the events of the answer.

* `Session.act_ask`: a question to one source.
* `Session.getElem?_act`: an action makes a source read if it asks it, and leaves it alone if not.
* `Session.getElem?_after_of_neverAsks`, `Session.getElem?_after_of_ready`: a source before the
  first question, and from there on.
* `Session.infix_act`: what reading leaves in the log stands among the records of the action that
  asks.
* `Session.environment_is_read_once`: answers and records of a source over the environment.
-/

namespace LayeredConfig

/-! ## What reading tells -/

/-- Name and value are texts, and one of them is beyond its limit. -/
def Variable.Oversized (v : Variable) : Prop :=
  (String.fromUTF8? v.name).isSome ∧ (String.fromUTF8? v.value).isSome ∧
    (512 < v.name.size ∨ 1048576 < v.value.size)

instance : DecidablePred Variable.Oversized :=
  fun v => inferInstanceAs (Decidable ((String.fromUTF8? v.name).isSome ∧
    (String.fromUTF8? v.value).isSome ∧ (512 < v.name.size ∨ 1048576 < v.value.size)))

namespace EnvironmentReader

/-- What reading an environment with this many keys tells: each oversized variable that it skips,
in order, and then how much it has loaded. -/
def report (r : EnvironmentReader) (env : Environment) (count : Nat) : List Event :=
  ((env.filter (·.Oversized)).map fun v =>
      .variableOversized v.name.size v.value.size 512 1048576) ++
    [.environmentRead count r.stem r.lowerCases r.replacesUnderscores]

theorem Reading.ofVariable_eq_oversized_iff {v : Variable} {nameSize valueSize : Nat} :
    Reading.ofVariable v = .oversized nameSize valueSize ↔
      v.Oversized ∧ nameSize = v.name.size ∧ valueSize = v.value.size := by
  rw [Variable.Oversized, ofVariable]
  split
  · rename_i name value hname hvalue
    rw [hname, hvalue, size_of_fromUTF8? hname, size_of_fromUTF8? hvalue, nameLimit, valueLimit]
    by_cases hover : 512 < name.utf8ByteSize ∨ 1048576 < value.utf8ByteSize
    · rw [if_pos hover, oversized.injEq]
      simp [hover, eq_comm]
    · rw [if_neg hover]
      simp [hover]
  · rename_i hnot
    constructor
    · intro h
      cases h
    · rintro ⟨⟨hname, hvalue, -⟩, -⟩
      obtain ⟨name, hname⟩ := Option.isSome_iff_exists.mp hname
      obtain ⟨value, hvalue⟩ := Option.isSome_iff_exists.mp hvalue
      exact absurd hvalue (hnot name value hname)

theorem events_eq (v : Variable) :
    events v =
      if v.Oversized then [.variableOversized v.name.size v.value.size 512 1048576] else [] := by
  by_cases hover : v.Oversized
  · rw [if_pos hover, events, Reading.ofVariable_eq_oversized_iff.mpr ⟨hover, rfl, rfl⟩]
    rfl
  · rw [if_neg hover, events]
    split
    · rename_i hread
      exact absurd (Reading.ofVariable_eq_oversized_iff.mp hread).1 hover
    · rfl

/-- The variables that are skipped do not depend on the reader. -/
theorem flatMap_events (env : Environment) :
    env.flatMap events = (env.filter (·.Oversized)).map fun v =>
      .variableOversized v.name.size v.value.size 512 1048576 := by
  induction env with
  | nil => rfl
  | cons v rest ih =>
    rw [List.flatMap_cons, ih, events_eq]
    by_cases hover : v.Oversized
    · simp [hover]
    · simp [hover]

theorem events_read (r : EnvironmentReader) (env : Environment) :
    (r.read env).events = r.report env (r.read env).result.keys.toList.length := by
  have hcount : (r.read env).result.keys.toList.length = (r.snapshot env).size := by
    show (r.snapshot env).keys.toList.length = _
    rw [Dictionary.toList_keys, List.length_map, Dictionary.size]
  rw [hcount, report, ← flatMap_events]
  rfl

end EnvironmentReader

/-! ## Questions -/

/-- A question to a source. -/
inductive Question where
  | hasKey (key : String)
  | value (key : String)
  | origin (key : String)
  | keys

/-- What a source says to a question. -/
inductive Answer where
  | truth (holds : Bool)
  | text (text? : Option String)
  | keySet (keys : KeySet)

/-- Asks a source that has read its data. -/
def Source.answer (s : Source) : Question → Answer
  | .hasKey key => .truth (s.hasKey key)
  | .value key => .text (s.value key)
  | .origin key => .text (s.origin key)
  | .keys => .keySet s.keys

namespace Session

/-! ## Histories -/

/-- What may happen to a session: a variable of the environment is set, replaced or removed, one of
the sources is asked, or the stack is. -/
inductive Action where
  | set (name value : ByteArray)
  | remove (name : ByteArray)
  | ask (place : Nat) (question : Question)
  | query (query : SomeQuery)

/-- The environment after an action. -/
def Action.change (env : Environment) : Action → Environment
  | set name value => env.set name value
  | remove name => env.remove name
  | _ => env

/-- Performs an action, with the answer if a source was asked by its place. -/
def act (s : Session) : Action → Logged (Option Answer × Session)
  | .set name value => pure (none, s.withEnvironment (s.environment.set name value))
  | .remove name => pure (none, s.withEnvironment (s.environment.remove name))
  | .ask place question =>
    match s.runAt place (·.answer question) with
    | some asked => (fun answered => (some answered.1, answered.2)) <$> asked
    | none => pure (none, s)
  | .query q => (fun answered => (none, answered.2)) <$> s.run (·.answer q.query)

/-- Performs actions one after the other. -/
def perform : Session → List Action → Logged Session
  | s, [] => pure s
  | s, a :: rest => do perform (← s.act a).2 rest

/-- The session after a sequence of actions. -/
def after (s : Session) (actions : List Action) : Session := (s.perform actions).result

/-- Whether an event is a question to the source at a place. -/
def reaches (place : Nat) : Event → Bool
  | .asked count => place < count
  | _ => false

theorem reaches_eq_false {event : Event} (h : ∀ count, event = .asked count → False)
    {place : Nat} : reaches place event = false := by
  cases event with
  | asked count => exact absurd rfl (h count)
  | _ => rfl

/-- Whether an action asks the source at a place, by itself or on behalf of the stack. -/
def asks (s : Session) (place : Nat) : Action → Bool
  | .ask other _ => other == place
  | .query q => (s.view.answer q.query).events.any (reaches place)
  | _ => false

/-- None of the actions, performed one after the other, asks the source at a place. -/
def NeverAsks (place : Nat) : Session → List Action → Prop
  | _, [] => True
  | s, a :: rest => s.asks place a = false ∧ NeverAsks place (s.act a).result.2 rest

/-! ## The sources after one action -/

/-- Asking a source by its place makes it read, and nothing else in the session changes. -/
theorem act_ask {s : Session} {place : Nat} {l : Live} (h : s.sources[place]? = some l)
    (question : Question) :
    s.act (.ask place question) =
      ⟨(some ((l.view s.environment).answer question),
        { s with sources := s.sources.set place (l.ask s.environment).result }),
        (l.ask s.environment).events⟩ := by
  have hact : s.act (.ask place question) =
      (fun answered => (some answered.1, answered.2)) <$>
        (⟨((l.view s.environment).answer question,
          { s with sources := s.sources.set place (l.ask s.environment).result }),
          (l.ask s.environment).events⟩ : Logged (Answer × Session)) := by
    simp only [act, runAt, h, Option.map_some]
  rw [hact]
  exact congrArg (Logged.mk _) (List.append_nil _)

theorem act_ask_of_none {s : Session} {place : Nat} (h : s.sources[place]? = none)
    (question : Question) : s.act (.ask place question) = pure (none, s) := by
  simp only [act, runAt, h, Option.map_none]

theorem events_act_query (s : Session) (q : SomeQuery) :
    (s.act (.query q)).events =
      (settle s.environment (s.view.answer q.query).events s.sources).events := by
  rw [act, Logged.events_map, run]

theorem getElem?_askFirst (env : Environment) (count : Nat) (sources : List Live) (place : Nat) :
    (askFirst env count sources).result[place]? =
      sources[place]?.map fun l => if place < count then (l.ask env).result else l := by
  fun_induction askFirst env count sources generalizing place with
  | case1 sources => simp
  | case2 => simp
  | case3 count live rest first others ih =>
    cases place with
    | zero => simp [first]
    | succ place => simp [others, ih]

/-- Questions of one query that reach the source again find that it has read. -/
theorem getElem?_settle (env : Environment) (events : List Event) (sources : List Live)
    (place : Nat) :
    (settle env events sources).result[place]? =
      sources[place]?.map fun l =>
        if events.any (reaches place) then (l.ask env).result else l := by
  fun_induction settle env events sources with
  | case1 sources => simp
  | case2 count rest sources asked others ih =>
    have hothers : others.result[place]? =
        asked.result[place]?.map fun l =>
          if rest.any (reaches place) then (l.ask env).result else l := ih
    show others.result[place]? = _
    rw [hothers, getElem?_askFirst, Option.map_map]
    congr 1
    funext l
    rw [List.any_cons]
    by_cases hreach : place < count
    · simp [reaches, hreach, Live.result_ask_ask]
    · simp [reaches, hreach]
  | case3 event rest sources hnot others ih =>
    show others.result[place]? = _
    rw [List.any_cons, reaches_eq_false hnot, Bool.false_or]
    exact ih

/-- An action that asks a source leaves it with what it has read, and all others leave it alone. -/
theorem getElem?_act (s : Session) (a : Action) (place : Nat) :
    (s.act a).result.2.sources[place]? =
      s.sources[place]?.map fun l =>
        if s.asks place a then (l.ask s.environment).result else l := by
  cases a with
  | set name value => simp [act, asks, withEnvironment]
  | remove name => simp [act, asks, withEnvironment]
  | ask other question =>
    cases hother : s.sources[other]? with
    | none =>
      rw [act_ask_of_none hother, Logged.result_pure]
      by_cases hplace : other = place
      · rw [← hplace, hother]; rfl
      · simp [asks, hplace]
    | some l =>
      rw [act_ask hother]
      by_cases hplace : other = place
      · subst hplace
        obtain ⟨hlt, hget⟩ := List.getElem?_eq_some_iff.mp hother
        simp [asks, hlt, hget]
      · show (s.sources.set other _)[place]? = _
        rw [List.getElem?_set_ne hplace]
        simp [asks, hplace]
  | query q => exact getElem?_settle s.environment _ s.sources place

theorem environment_act (s : Session) (a : Action) :
    (s.act a).result.2.environment = a.change s.environment := by
  cases a with
  | set name value => rfl
  | remove name => rfl
  | ask place question =>
    cases hplace : s.sources[place]? with
    | none => rw [act_ask_of_none hplace]; rfl
    | some l => rw [act_ask hplace]; rfl
  | query q => rfl

/-! ## Histories before and after the first question -/

theorem after_cons (s : Session) (a : Action) (rest : List Action) :
    s.after (a :: rest) = (s.act a).result.2.after rest := rfl

theorem after_append (s : Session) (actions more : List Action) :
    s.after (actions ++ more) = (s.after actions).after more := by
  induction actions generalizing s with
  | nil => rfl
  | cons a rest ih => rw [List.cons_append, after_cons, ih, after_cons]

theorem environment_after (s : Session) (actions : List Action) :
    (s.after actions).environment = actions.foldl Action.change s.environment := by
  induction actions generalizing s with
  | nil => rfl
  | cons a rest ih => rw [after_cons, ih, environment_act, List.foldl_cons]

theorem getElem?_after_of_neverAsks {s : Session} {place : Nat} {actions : List Action}
    (h : NeverAsks place s actions) : (s.after actions).sources[place]? = s.sources[place]? := by
  induction actions generalizing s with
  | nil => rfl
  | cons a rest ih =>
    obtain ⟨hfirst, hrest⟩ := h
    rw [after_cons, ih hrest, getElem?_act, hfirst]
    simp

/-- A source that has read does not read again. -/
theorem getElem?_after_of_ready {s : Session} {place : Nat} {source : Source}
    (h : s.sources[place]? = some (.ready source)) (actions : List Action) :
    (s.after actions).sources[place]? = some (.ready source) := by
  induction actions generalizing s with
  | nil => exact h
  | cons a rest ih =>
    refine ih ?_
    have hasked : (Live.ask s.environment (.ready source)).result = .ready source := rfl
    rw [getElem?_act, h, Option.map_some, hasked, ite_self]

/-- The source at a place answers like a plain source, by itself and in the stack, and leaves
nothing in the log. -/
structure Answers (s : Session) (place : Nat) (source : Source) : Prop where
  view : s.view[place]? = some source
  ask : ∀ question, (s.act (.ask place question)).result.1 = some (source.answer question) ∧
    (s.act (.ask place question)).log = []
  quiet : ∀ l, s.sources[place]? = some l → l.Quiet

theorem answers_of_ready {s : Session} {place : Nat} {source : Source}
    (h : s.sources[place]? = some (.ready source)) : s.Answers place source := by
  refine ⟨?_, fun question => ?_, ?_⟩
  · rw [view, List.getElem?_map, h]
    rfl
  · rw [act_ask h]
    exact ⟨rfl, rfl⟩
  · intro l hl
    cases Option.some.inj (h.symm.trans hl)
    exact Live.quiet_ready source

/-! ## What the first question leaves in the log -/

variable {env : Environment} {place : Nat} {l : Live}

theorem infix_askFirst {count : Nat} {sources : List Live} (hl : sources[place]? = some l)
    (hplace : place < count) :
    (l.ask env).events <:+: (askFirst env count sources).events := by
  fun_induction askFirst env count sources generalizing place with
  | case1 sources => omega
  | case2 => cases hl
  | case3 count live rest first others =>
    rename_i ih
    cases place with
    | zero =>
      obtain rfl : live = l := Option.some.inj hl
      exact (List.prefix_append first.events others.events).isInfix
    | succ place =>
      have hrest : (l.ask env).events <:+: others.events := ih hl (by omega)
      exact hrest.trans (List.suffix_append first.events others.events).isInfix

theorem infix_settle {events : List Event} {sources : List Live} (hl : sources[place]? = some l)
    (hreach : events.any (reaches place) = true) :
    (l.ask env).events <:+: (settle env events sources).events := by
  fun_induction settle env events sources with
  | case1 sources => cases hreach
  | case2 count rest sources asked others ih =>
    by_cases hplace : place < count
    · have hasked : (l.ask env).events <:+: asked.events := infix_askFirst hl hplace
      exact hasked.trans (List.prefix_append _ _).isInfix
    · -- This question stops above the place, so the source has still to be asked.
      have hwaits : asked.result[place]? = some l := by
        rw [getElem?_askFirst, hl, Option.map_some, if_neg hplace]
      have hrest : rest.any (reaches place) = true := by
        simpa [reaches, hplace] using hreach
      have hothers : (l.ask env).events <:+: others.events := ih hwaits hrest
      exact hothers.trans ((List.suffix_cons _ _).trans (List.suffix_append _ _)).isInfix
  | case3 event rest sources hnot others ih =>
    have hrest : rest.any (reaches place) = true := by
      rwa [List.any_cons, reaches_eq_false hnot, Bool.false_or] at hreach
    have hothers : (l.ask env).events <:+: others.events := ih hl hrest
    exact hothers.trans (List.suffix_cons event others.events).isInfix

theorem infix_act {s : Session} {a : Action} (hl : s.sources[place]? = some l)
    (hasks : s.asks place a = true) :
    (l.ask s.environment).log <:+: (s.act a).log := by
  refine List.IsInfix.filterMap Event.record? ?_
  cases a with
  | set name value => cases hasks
  | remove name => cases hasks
  | ask other question =>
    obtain rfl : other = place := eq_of_beq hasks
    have hevents : (l.ask s.environment).events = (s.act (.ask other question)).events :=
      (congrArg Logged.events (act_ask hl question)).symm
    exact hevents ▸ List.infix_rfl
  | query q =>
    rw [events_act_query]
    exact infix_settle hl hasks

/-! ## Histories of one source -/

/-- The action changes the environment or asks the source at the place by itself. -/
def Action.Concerns (place : Nat) : Action → Prop
  | .set _ _ => True
  | .remove _ => True
  | .ask other _ => other = place
  | .query _ => False

theorem log_act_of_concerns {s : Session} {a : Action} (hl : s.sources[place]? = some l)
    (ha : a.Concerns place) :
    (s.act a).log = if s.asks place a then (l.ask s.environment).log else [] := by
  cases a with
  | set name value => rfl
  | remove name => rfl
  | ask other question =>
    obtain rfl : other = place := ha
    have hasks : s.asks other (.ask other question) = true := beq_self_eq_true other
    rw [if_pos hasks, act_ask hl]
    rfl
  | query q => exact absurd ha id

theorem log_perform_cons (s : Session) (a : Action) (rest : List Action) :
    (s.perform (a :: rest)).log = (s.act a).log ++ ((s.act a).result.2.perform rest).log := by
  rw [perform, Logged.log_bind]

theorem log_perform_of_neverAsks {s : Session} {actions : List Action}
    (hl : s.sources[place]? = some l) (h : NeverAsks place s actions)
    (hconcerns : ∀ a ∈ actions, a.Concerns place) : (s.perform actions).log = [] := by
  induction actions generalizing s with
  | nil => rfl
  | cons a rest ih =>
    obtain ⟨hfirst, hrest⟩ := h
    obtain ⟨ha, hothers⟩ := List.forall_mem_cons.mp hconcerns
    have hl' : (s.act a).result.2.sources[place]? = some l := by
      rw [getElem?_act, hl, hfirst]
      rfl
    rw [log_perform_cons, log_act_of_concerns hl ha, hfirst, ih hl' hrest hothers]
    rfl

theorem log_perform_of_ready {s : Session} {source : Source} {actions : List Action}
    (h : s.sources[place]? = some (.ready source)) (hconcerns : ∀ a ∈ actions, a.Concerns place) :
    (s.perform actions).log = [] := by
  induction actions generalizing s with
  | nil => rfl
  | cons a rest ih =>
    obtain ⟨ha, hothers⟩ := List.forall_mem_cons.mp hconcerns
    have hquiet : (Live.ask s.environment (.ready source)).log = [] := rfl
    have hnext : (s.act a).result.2.sources[place]? = some (.ready source) :=
      getElem?_after_of_ready h [a]
    rw [log_perform_cons, log_act_of_concerns h ha, hquiet, ite_self, ih hnext hothers]
    rfl

/-! ## One snapshot -/

/-- **The environment is read once, at the first question.** From the first action that asks a
source over the environment, the source answers as the one that was read from the environment of
that moment, with the changes that were made before and without those that are made after. It
tells what it skips and how much it loads then, and says nothing before and after. A source over
given values answers from them and says nothing, whatever the environment is. -/
theorem environment_is_read_once (s : Session) (place : Nat) (r : EnvironmentReader)
    (before : List Action) (first : Action)
    (hsource : s.sources[place]? = some (.environment r)) (hbefore : NeverAsks place s before)
    (hfirst : (s.after before).asks place first = true) :
    let env := before.foldl Action.change s.environment
    let loaded := r.read env
    let report := records (r.report env loaded.result.keys.toList.length)
    (s.after before).view[place]? = some loaded.result ∧
      (∀ question, first = .ask place question →
        ((s.after before).act first).result.1 = some (loaded.result.answer question)) ∧
      report <:+: ((s.after before).act first).log ∧
      (∀ later, (s.after (before ++ first :: later)).Answers place loaded.result) ∧
      (∀ later, (∀ a ∈ before ++ first :: later, a.Concerns place) →
        (s.perform before).log = [] ∧ ((s.after before).act first).log = report ∧
          ((s.after (before ++ [first])).perform later).log = []) ∧
      ∀ (values : Dictionary String) (t : Session) (actions : List Action),
        t.sources[place]? = some (.ready (EnvironmentReader.ofValues values)) →
          (t.after actions).Answers place (EnvironmentReader.ofValues values) ∧
            ((∀ a ∈ actions, a.Concerns place) → (t.perform actions).log = []) := by
  intro env loaded report
  have henv : (s.after before).environment = env := environment_after s before
  have hwaits : (s.after before).sources[place]? = some (.environment r) := by
    rw [getElem?_after_of_neverAsks hbefore, hsource]
  have hreading : ((Live.environment r).ask (s.after before).environment).log = report := by
    rw [henv]
    exact congrArg records (r.events_read env)
  have hready : ((s.after before).act first).result.2.sources[place]? =
      some (.ready loaded.result) := by
    rw [getElem?_act, hwaits, Option.map_some, if_pos hfirst, henv]
    rfl
  have hlater (later : List Action) :
      (s.after (before ++ first :: later)).sources[place]? = some (.ready loaded.result) := by
    rw [after_append, after_cons]
    exact getElem?_after_of_ready hready later
  refine ⟨?_, ?_, ?_, fun later => answers_of_ready (hlater later), fun later hconcerns => ?_,
    fun values t actions ht => ⟨?_, log_perform_of_ready ht⟩⟩
  · rw [view, List.getElem?_map, hwaits, henv]
    rfl
  · rintro question rfl
    rw [act_ask hwaits, henv]
    rfl
  · rw [← hreading]
    exact infix_act hwaits hfirst
  · obtain ⟨hconcernsBefore, hconcernsRest⟩ := List.forall_mem_append.mp hconcerns
    obtain ⟨hconcernsFirst, hconcernsLater⟩ := List.forall_mem_cons.mp hconcernsRest
    refine ⟨log_perform_of_neverAsks hsource hbefore hconcernsBefore, ?_,
      log_perform_of_ready (hlater []) hconcernsLater⟩
    rw [log_act_of_concerns hwaits hconcernsFirst, if_pos hfirst, hreading]
  · exact answers_of_ready (getElem?_after_of_ready ht actions)

/-- A session with a table above the environment. -/
def portSession : Session where
  sources :=
    [.ready (Table.ofList "flags" [("port", "80")]).source,
      .environment (.conventional (some "APP_"))]
  environment := [⟨"APP_HOST".toUTF8, "a".toUTF8⟩]

/-- What happens before the environment is asked: the table answers a query, the host changes. -/
def beforeHost : List Action := [.query ⟨.provides "port"⟩, .set "APP_HOST".toUTF8 "b".toUTF8]

theorem host_of_portSession :
    NeverAsks 1 portSession beforeHost ∧
      (portSession.after beforeHost).asks 1 (.ask 1 (.value "host")) = true ∧
      ((portSession.after beforeHost).act (.ask 1 (.value "host"))).result.1 =
        some (.text (some "b")) ∧
      ∃ source, source.value "host" = some "b" ∧
        (portSession.after (beforeHost ++ .ask 1 (.value "host") ::
          [.set "APP_HOST".toUTF8 "c".toUTF8, .remove "APP_HOST".toUTF8])).Answers 1 source := by
  have hbefore : NeverAsks 1 portSession beforeHost := ⟨by rfl, by rfl, trivial⟩
  have hfirst : (portSession.after beforeHost).asks 1 (.ask 1 (.value "host")) = true := by rfl
  obtain ⟨-, hanswer, -, hlater, -⟩ := environment_is_read_once portSession 1
    (.conventional (some "APP_")) beforeHost (.ask 1 (.value "host")) (by rfl) hbefore hfirst
  exact ⟨hbefore, hfirst, (hanswer _ rfl).trans (by rfl), _, by rfl, hlater _⟩

end Session

end LayeredConfig
