import FieldPattern.Engine.Scripted
import FieldPattern.Proofs.Matching.Session

/-!
# What a matcher asks of its engine

The engine of a matcher is arbitrary here: it works in any lawful monad, so it may keep a state, ask
somebody else, answer the same question differently each time, and fail at any of its operations. A
*session* prepares a matcher on it and takes steps with the matcher. Each step asks at most one
question, and what it tells is a function of the response to that question alone (`State.told`); so
the whole session is one compilation and then the questions of its steps in order (`session_eq`).

Since this holds in every monad, it holds of an engine that records the calls it receives and passes
them on. Hence the calls of a session are known exactly, and so is what happens after a failure: the
step that met it tells it, and the next step asks its own question (`session_recorded`).
-/

namespace FieldPattern

open FieldPattern.Action (Asks Ends)

variable {m : Type → Type} [Monad m]

/-! ## Questions and responses -/

/-- What a matcher asks of its engine about a text. -/
inductive Query where
  | search (text : Value)
  | scan (text : Value)

/-- The call that a question is. -/
def Query.call : Query → EngineCall
  | search text => .search text
  | scan text => .scan text

/-- What an engine responds to questions of either kind; where none was asked it is as if nothing
was found. -/
structure Response where
  found : Except Failure (Option Hit) := .ok none
  scanned : Scan := { hits := [] }

/-- The response to a question, if there is one. -/
def Regex.respond (regex : Regex m) : Option Query → m Response
  | some (.search text) => return { found := ← regex.search text }
  | some (.scan text) => return { scanned := ← regex.scan text }
  | none => return {}

/-- The engine that compiles everything and always responds in the same way. -/
def Engine.responding (r : Response) : Engine Id where
  compile _ := .ok ⟨fun _ => r.found, fun _ => r.scanned⟩

/-! ## Recording -/

/-- The compiled pattern, recording the calls that it receives. -/
def Regex.recorded (regex : Regex m) : Regex (StateT (List EngineCall) m) where
  search text := do
    modify (· ++ [.search text])
    StateT.lift (regex.search text)
  scan text := do
    modify (· ++ [.scan text])
    StateT.lift (regex.scan text)

/-- The engine, recording the calls that it receives. -/
def Engine.recorded (e : Engine m) : Engine (StateT (List EngineCall) m) where
  ready := e.ready
  compile pattern := do
    modify (· ++ [.compile pattern])
    return (← StateT.lift (e.compile pattern)).map Regex.recorded

/-! ## Sessions -/

namespace Matcher

/-- What can be seen of a matcher. -/
structure State where
  expression : String
  pattern : String
  fields : List String
  options : Options

def state (x : Matcher m) : State :=
  ⟨x.expression, x.compiled.pattern, x.compiled.fields, x.options⟩

/-- A step with a matcher: a request, or a look at its state. -/
inductive Step where
  | ask (r : Request)
  | look

/-- What a step tells. -/
inductive Told where
  | reply (answer : Except Error Answer)
  | state (s : State)

/-- Takes a step. An error of a request is told; it does not end the session. -/
def take (x : Matcher m) : Step → StateT Log m Told
  | .ask r => do return .reply (← (x.reply r).run)
  | .look => return .state x.state

/-- Prepares a matcher on an engine and takes steps with it; the log is left out. -/
def session (engine : Engine m) (expression options : Value) (steps : List Step) :
    m (Except Error (List Told)) := do
  let prepare : Action m (List Told) := do
    let x ← create (some engine) expression options
    ExceptT.lift (steps.mapM x.take)
  return (← prepare.report).1

namespace State

/-- The question of a request. -/
def query (s : State) : Request → Query
  | .run text => if s.options.global.truthy then .scan text else .search text
  | .matchAll text => .scan text

/-- The question of a step, if it has one. -/
def query? (s : State) : Step → Option Query
  | .ask r => some (s.query r)
  | .look => none

/-- The field values of captures. -/
def valuesOf (s : State) (hit : Hit) : Except Error FieldValues :=
  FieldValues.ofCaptures s.options.weak.truthy s.fields hit.groups

/-- What the response to a search gives: its failure, or the values of the match if there is one. -/
def first (s : State) : Except Failure (Option Hit) → Except Error (Option FieldValues)
  | .error failure => .error (.engine failure)
  | .ok none => .ok none
  | .ok (some hit) => (s.valuesOf hit).map some

/-- What the response to a scan gives: the values of all matches, unless one of them has none or the
scan fails behind them. -/
def all (s : State) (found : Scan) : Except Error (List FieldValues) :=
  match found.hits.mapM s.valuesOf, found.failure with
  | .error e, _ => .error e
  | .ok _, some failure => .error (.engine failure)
  | .ok values, none => .ok values

/-- The answer to a request by the response to its question. -/
def answer (s : State) : Request → Response → Except Error Answer
  | .run _, r =>
    if s.options.global.truthy then (s.all r.scanned).map .all else (s.first r.found).map .first
  | .matchAll _, r => (s.all r.scanned).map .all

/-- What a step tells by the response to its question. -/
def told (s : State) : Step → Response → Told
  | .ask q, r => .reply (s.answer q r)
  | .look, _ => .state s

/-- The course of a session by the response to its compilation. A failure there is its end. -/
def course (s : State) (steps : List Step) : Except Failure (Regex m) → m (Except Error (List Told))
  | .error failure => return .error (.rejected s.expression s.pattern failure)
  | .ok regex => do
    let responses ← steps.mapM fun t => regex.respond (s.query? t)
    return .ok (List.zipWith s.told steps responses)

/-- The calls of a session behind its compilation, by the response to that. -/
def calls (s : State) (steps : List Step) : Except Failure (Regex m) → List EngineCall
  | .error _ => []
  | .ok _ => (steps.filterMap s.query?).map Query.call

end State

/-- What a step tells depends on the response to its own question only. -/
theorem State.told_respond (s : State) (step : Step) (r : Response) :
    s.told step (Regex.respond (m := Id) ⟨fun _ => r.found, fun _ => r.scanned⟩ (s.query? step)) =
      s.told step r := by
  rcases step with (text | text) | _
  · rw [State.query?, State.query, State.told, State.told, State.answer, State.answer]
    split <;> rfl
  · rfl
  · rfl

/-! ## One step -/

section Take

omit [Monad m] in
theorem valuesOfScan_eq_all (x : Matcher m) (found : Scan) :
    x.valuesOfScan found = x.state.all found := by
  rw [valuesOfScan, State.all]
  show (found.hits.mapM x.state.valuesOf >>= _) = _
  cases found.hits.mapM x.state.valuesOf with
  | error e => rfl
  | ok values => cases found.failure <;> rfl

variable [LawfulMonad m]

theorem matchFirst_asks (x : Matcher m) (text : Value) :
    (x.matchFirst text).Asks (x.regex.search text) x.state.first fun _ => [] := by
  rw [matchFirst]
  apply Asks.perform
  rintro (failure | _ | hit)
  · exact Ends.throw _
  · exact Ends.pure _
  · exact (Ends.ofExcept (x.valuesOf hit.groups)).map some

theorem matchAll_asks (x : Matcher m) (text : Value) :
    ∃ records, (x.matchAll text).Asks (x.regex.scan text) x.state.all records := by
  rw [matchAll]
  have hends : ∀ found, ∃ records, (do
      let values ← MonadExcept.ofExcept (x.valuesOfScan found)
      Action.record (x.scanRecord values.length)
      return values : Action m (List FieldValues)).Ends (x.state.all found) records := by
    intro found
    rw [valuesOfScan_eq_all]
    have hr : (MonadExcept.ofExcept (x.state.all found) : Action m (List FieldValues)).Ends
        (x.state.all found) [] := Ends.ofExcept _
    cases hall : x.state.all found with
    | error e =>
      rw [hall] at hr
      exact ⟨_, hr.bind_error⟩
    | ok values =>
      rw [hall] at hr
      exact ⟨_, hr.bind ((Ends.record _).bind (Ends.pure values))⟩
  choose records hrecords using hends
  exact ⟨records, Asks.perform hrecords⟩

/-- A request asks its question, and its reply is the answer by the response. -/
theorem reply_asks (x : Matcher m) (r : Request) :
    ∃ records, (x.reply r).Asks (x.regex.respond (some (x.state.query r))) (x.state.answer r)
      records := by
  have hall : ∀ text, ∃ records,
      (x.matchAll text >>= fun values => pure (.all values) : Action m Answer).Asks
        (x.regex.respond (some (.scan text))) (fun r => (x.state.all r.scanned).map .all)
        records := by
    intro text
    obtain ⟨records, hasks⟩ := x.matchAll_asks text
    refine ⟨fun r => records r.scanned, Asks.reading (fun c => ({ scanned := c } : Response)) ?_⟩
    exact hasks.map Answer.all
  have hfirst : ∀ text, ∃ records,
      (x.matchFirst text >>= fun values => pure (.first values) : Action m Answer).Asks
        (x.regex.respond (some (.search text))) (fun r => (x.state.first r.found).map .first)
        records := by
    intro text
    refine ⟨fun _ => [], Asks.reading (fun c => ({ found := c } : Response)) ?_⟩
    exact (x.matchFirst_asks text).map Answer.first
  cases r with
  | run text =>
    rw [reply, run]
    by_cases hglobal : x.options.global.truthy = true
    · have hquery : x.state.query (.run text) = .scan text := if_pos hglobal
      have hanswer : x.state.answer (.run text) = fun r => (x.state.all r.scanned).map .all :=
        funext fun _ => if_pos hglobal
      rw [hquery, hanswer, if_pos hglobal]
      exact hall text
    · have hquery : x.state.query (.run text) = .search text := if_neg hglobal
      have hanswer : x.state.answer (.run text) = fun r => (x.state.first r.found).map .first :=
        funext fun _ => if_neg hglobal
      rw [hquery, hanswer, if_neg hglobal]
      exact hfirst text
  | matchAll text => exact hall text

/-- A step asks its question, and tells what the response gives. -/
theorem take_run (x : Matcher m) (s : Step) : ∃ records : Response → Log, ∀ log,
    (x.take s).run log = x.regex.respond (x.state.query? s) >>= fun r =>
      pure (x.state.told s r, log ++ records r) := by
  cases s with
  | look =>
    refine ⟨fun _ => [], fun log => ?_⟩
    show _ = (pure {} : m Response) >>= _
    rw [pure_bind, List.append_nil]
    rfl
  | ask q =>
    obtain ⟨records, hasks⟩ := x.reply_asks q
    refine ⟨records, fun log => ?_⟩
    rw [take, StateT.run_bind, hasks log, bind_assoc]
    simp only [pure_bind, StateT.run_pure]
    rfl

/-! ## Whole sessions -/

/-- The steps of a session ask one after another, and each tells what its own response gives. -/
theorem mapM_take_run (x : Matcher m) (steps : List Step) (log : Log) :
    (·.1) <$> (steps.mapM x.take).run log =
      (do
        let responses ← steps.mapM fun s => x.regex.respond (x.state.query? s)
        return List.zipWith x.state.told steps responses) := by
  induction steps generalizing log with
  | nil => simp
  | cons s steps ih =>
    obtain ⟨records, htake⟩ := x.take_run s
    simp only [List.mapM_cons, StateT.run_bind, htake, bind_assoc, pure_bind, map_bind,
      StateT.run_pure]
    apply bind_congr
    intro r
    have hrest := congrArg ((x.state.told s r :: ·) <$> ·) (ih (log ++ records r))
    simpa only [map_eq_pure_bind, bind_assoc, pure_bind, List.zipWith_cons_cons] using hrest

/-- The matcher of a compiled expression, by the response of its engine to the pattern. -/
def ofResponse (expression : String) (options : Options) (c : Compiled) :
    Except Failure (Regex m) → Except Error (Matcher m)
  | .error failure => .error (.rejected expression c.pattern failure)
  | .ok regex => .ok ⟨expression, options, c, regex⟩

section Whole

variable {e : Engine m} {expression left right : String} {options : Value} {settled : Options}
  {c : Compiled}

/-- Preparing a matcher on a ready engine asks it to compile the pattern. -/
theorem create_asks (hready : e.ready = true) (hoptions : Options.resolve options = .ok settled)
    (hmarkers : settled.markers = .ofTexts left right)
    (hc : Compiled.ofText settled.strict.truthy left.toList right.toList expression.toList = c) :
    ∃ records, (create (some e) (.str expression) options).Asks (e.compile c.pattern)
      (ofResponse expression settled c) records := by
  have hsettled := Options.resolveLogged_ends (m := m) options
  rw [hoptions] at hsettled
  obtain ⟨records, hcompiled⟩ :=
    Compiled.ofValue_ends (m := m) (.str expression) settled.markers settled.strict.truthy
  have htexts : expressionTexts (.str expression) settled.markers =
      .ok (expression, left.toList, right.toList) := by
    rw [hmarkers]
    rfl
  rw [htexts] at hcompiled
  have hengine : Engine.choose (some e) = e := by
    rw [Engine.choose, if_pos hready]
  rw [create, hengine]
  subst hc
  refine ⟨fun _ => _ ++ (records ++ []),
    Asks.after hsettled (Asks.after hcompiled (Asks.perform fun response => ?_))⟩
  cases response with
  | error failure => exact Ends.throw _
  | ok regex => exact Ends.pure _

/-- A session is a compilation, and then the questions of its steps in order. -/
theorem session_eq (hready : e.ready = true) (hoptions : Options.resolve options = .ok settled)
    (hmarkers : settled.markers = .ofTexts left right)
    (hc : Compiled.ofText settled.strict.truthy left.toList right.toList expression.toList = c)
    (steps : List Step) :
    session e (.str expression) options steps =
      e.compile c.pattern >>= State.course ⟨expression, c.pattern, c.fields, settled⟩ steps := by
  obtain ⟨records, hasks⟩ := create_asks hready hoptions hmarkers hc
  have hcreate := hasks []
  rw [session, Action.report, ExceptT.run_bind, StateT.run_bind, hcreate]
  simp only [bind_assoc, pure_bind]
  apply bind_congr
  rintro (failure | regex)
  · rw [ofResponse, State.course, StateT.run_pure, pure_bind]
  · have hsteps := mapM_take_run ⟨expression, settled, c, regex⟩ steps ([] ++ records (.ok regex))
    have htold := congrArg (Except.ok (ε := Error) <$> ·) hsteps
    rw [ofResponse, State.course]
    simpa only [state, ExceptT.run_lift, map_eq_pure_bind, StateT.run_bind, StateT.run_pure,
      bind_assoc, pure_bind] using htold

/-- Recorded, a compiled pattern responds as before; the call of the question is added. -/
theorem respond_recorded (regex : Regex m) (q : Option Query) (calls : List EngineCall) :
    (regex.recorded.respond q).run calls =
      regex.respond q >>= fun r => pure (r, calls ++ (q.map Query.call).toList) := by
  rcases q with _ | text | text
  · simp [Regex.respond]
  · simp [Regex.respond, Regex.recorded, Query.call]
  · simp [Regex.respond, Regex.recorded, Query.call]

theorem mapM_respond_recorded (regex : Regex m) (qs : Step → Option Query) (steps : List Step)
    (calls : List EngineCall) :
    (steps.mapM fun t => regex.recorded.respond (qs t)).run calls =
      (steps.mapM fun t => regex.respond (qs t)) >>= fun responses =>
        pure (responses, calls ++ (steps.filterMap qs).map Query.call) := by
  induction steps generalizing calls with
  | nil => simp
  | cons t steps ih =>
    simp only [List.mapM_cons, StateT.run_bind, respond_recorded, bind_assoc, pure_bind, ih,
      StateT.run_pure]
    apply bind_congr
    intro r
    apply bind_congr
    intro responses
    cases hq : qs t <;> simp [hq]

/-- Recorded, the course of a session is as before; the calls of its questions are added. -/
theorem course_recorded (s : State) (steps : List Step) (r : Except Failure (Regex m))
    (calls : List EngineCall) :
    (s.course steps (r.map Regex.recorded)).run calls =
      s.course steps r >>= fun outcome => pure (outcome, calls ++ s.calls steps r) := by
  cases r with
  | error failure => simp [Except.map, State.course, State.calls]
  | ok regex =>
    simp only [Except.map, State.course, State.calls, StateT.run_bind, mapM_respond_recorded,
      bind_assoc, pure_bind, StateT.run_pure]

end Whole
end Take
end Matcher

open Matcher (State Step)

/-- A session with a ready engine, the markers being texts, makes one call to compile the pattern of
the expression; if that fails, the session is over, and the error tells the expression, the pattern
and the failure. Else each step makes the call of its question, if it has one, and tells what the
response gives; nothing that an earlier step met matters. Hence it tells what it tells in a session
of its own, with an engine that responds to everything as this one did then. -/
theorem session_recorded [LawfulMonad m] {e : Engine m} (hready : e.ready = true)
    {options : Value} {settled : Options} {left right : String}
    (hoptions : Options.resolve options = .ok settled)
    (hmarkers : settled.markers = .ofTexts left right) (expression : String) {c : Compiled}
    (hc : Compiled.ofText settled.strict.truthy left.toList right.toList expression.toList = c)
    {s : State} (hs : s = ⟨expression, c.pattern, c.fields, settled⟩)
    (steps : List Step) (calls : List EngineCall) :
    (Matcher.session e.recorded (.str expression) options steps).run calls =
        (do
          let response ← e.compile c.pattern
          let outcome ← s.course steps response
          return (outcome, calls ++ .compile c.pattern :: s.calls steps response)) ∧
      ∀ (step : Step) (r : Response),
        Matcher.session (Engine.responding r) (.str expression) options [step] =
          .ok [s.told step r] := by
  subst hs
  constructor
  · rw [Matcher.session_eq (e := e.recorded) hready hoptions hmarkers hc, Engine.recorded]
    simp [Matcher.course_recorded]
  · intro step r
    rw [Matcher.session_eq (e := Engine.responding r) rfl hoptions hmarkers hc]
    exact congrArg (fun told => Except.ok [told]) (State.told_respond _ step r)

/-- An engine whose searches fail and find something in turn. -/
def Engine.faltering : Engine (StateM Nat) where
  compile _ := return .ok {
    search _ := modifyGet fun n =>
      (if n % 2 = 0 then .error (.reported .runtime "busy") else .ok (some ⟨[some "a"], 0, 1⟩),
        n + 1)
    scan _ := return ⟨[⟨[some "a"], 0, 1⟩], some (.reported .value "cut")⟩ }

/-- The second search finds something although the first one failed; a scan that breaks off tells
its failure only. -/
theorem session_recorded_faltering :
    ((Matcher.session Engine.faltering.recorded (.str "x") .null [.ask (.run (.str "1")), .look,
        .ask (.run (.str "2")), .ask (.matchAll (.str "3"))]).run []).run 0 =
      ((.ok [.reply (.error (.engine (.reported .runtime "busy"))),
          .state ⟨"x", "(\\w+)", ["x"], .default⟩,
          .reply (.ok (.first (some [("x", .text "a")]))),
          .reply (.error (.engine (.reported .value "cut")))],
        [.compile "(\\w+)", .search (.str "1"), .search (.str "2"), .scan (.str "3")]), 2) := by
  have hoptions : Options.resolve .null = .ok .default := rfl
  rw [(session_recorded (e := Engine.faltering) rfl hoptions rfl "x" rfl rfl _ []).1]
  rfl

end FieldPattern
