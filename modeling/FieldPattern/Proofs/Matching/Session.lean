import FieldPattern.Proofs.Matching.FieldValues
import FieldPattern.Proofs.Matching.Preparation
import FieldPattern.Proofs.Pattern.Scan

/-!
# Sessions with a matcher

A matcher is prepared once and then asked many times. A *session* is a list of requests made one
after another; a request that stops with an error leaves the matcher as it was, and the next one is
answered. On the standard engine the reply to a request is the same wherever it stands in a session
(`replies_run`).

The two ways to ask agree. Matching one occurrence searches, and matching all of them scans, with a
place to go on from and a rule for empty occurrences; but the first occurrence of a scan is what
the search finds (`Pattern.head?_findAll`). So whenever all occurrences have values, the first of
them is the answer for one occurrence (`replies_agree`).
-/

namespace FieldPattern
namespace Matcher

open FieldPattern.Action (Ends)

variable {m : Type → Type}

/-- What a matcher may be asked about a text: for what its options say, or for all occurrences. -/
inductive Request where
  | run (text : Value)
  | matchAll (text : Value)

section Ask

variable [Monad m]

/-- The reply to a request. -/
def reply (x : Matcher m) : Request → Action m Answer
  | .run text => x.run text
  | .matchAll text => do return .all (← x.matchAll text)

/-- The replies to requests made one after another. -/
def replies (x : Matcher m) (requests : List Request) : StateT Log m (List (Except Error Answer)) :=
  requests.mapM fun r => (x.reply r).run

/-- The matcher searches with the atoms of its own pattern. -/
def IsStandard (x : Matcher m) : Prop :=
  x.regex = Engine.regexOf {} x.compiled.atoms

end Ask

/-! ## Outcomes -/

/-- The values of the fields of an occurrence. -/
def valuesAt (x : Matcher m) (o : Occurrence) : Except Error FieldValues :=
  x.valuesOf o.hit.groups

/-- What asking for the first occurrence gives. -/
def firstValues (x : Matcher m) (text : Value) : Except Error (Option FieldValues) :=
  match Engine.subject text with
  | .error failure => .error (.engine failure)
  | .ok s =>
    match x.compiled.atoms.search? {} s with
    | none => .ok none
    | some o => (x.valuesAt o).map some

/-- What asking for all occurrences gives. -/
def allValues (x : Matcher m) (text : Value) : Except Error (List FieldValues) :=
  match Engine.subject text with
  | .error failure => .error (.engine failure)
  | .ok s => (x.compiled.atoms.findAll {} s).mapM x.valuesAt

/-- The outcome of a request. -/
def outcome (x : Matcher m) : Request → Except Error Answer
  | .run text =>
    if x.options.global.truthy then (x.allValues text).map .all
    else (x.firstValues text).map .first
  | .matchAll text => (x.allValues text).map .all

section One

variable {x : Matcher m}

theorem allValues_str (x : Matcher m) (s : String) :
    x.allValues (.str s) = (x.compiled.atoms.findAll {} s.toList).mapM x.valuesAt :=
  rfl

theorem firstValues_str (x : Matcher m) (s : String) :
    x.firstValues (.str s) = match (x.compiled.atoms.findAll {} s.toList).head? with
      | none => .ok none
      | some o => (x.valuesAt o).map some := by
  rw [Pattern.head?_findAll]
  rfl

/-- Where all occurrences have values, the first of them is what is found first. -/
theorem firstValues_eq_head? {text : Value} {values : List FieldValues}
    (h : x.allValues text = .ok values) : x.firstValues text = .ok values.head? := by
  rw [allValues] at h
  rw [firstValues]
  cases hsubject : Engine.subject text with
  | error failure =>
    rw [hsubject] at h
    cases h
  | ok s =>
    rw [hsubject] at h
    dsimp only at h ⊢
    rw [← Pattern.head?_findAll]
    cases hfound : x.compiled.atoms.findAll {} s with
    | nil =>
      rw [hfound, List.mapM_nil] at h
      cases h
      rfl
    | cons o rest =>
      rw [hfound, List.mapM_cons] at h
      rw [List.head?_cons]
      dsimp only
      cases hfirst : x.valuesAt o with
      | error e =>
        rw [hfirst] at h
        cases h
      | ok v =>
        rw [hfirst] at h
        cases hrest : rest.mapM x.valuesAt with
        | error e =>
          rw [hrest] at h
          cases h
        | ok vs =>
          rw [hrest] at h
          cases h
          rfl

theorem outcome_of_allValues {text : Value} {values : List FieldValues}
    (h : x.allValues text = .ok values) :
    x.outcome (.matchAll text) = .ok (.all values) ∧
      x.outcome (.run text) =
        .ok (if x.options.global.truthy then .all values else .first values.head?) := by
  constructor
  · rw [outcome, h]
    rfl
  · rw [outcome, h, firstValues_eq_head? h]
    split <;> rfl

end One

/-! ## Failures -/

theorem exists_error_of_mapM {α β : Type} {f : α → Except Error β} {xs : List α} {e : Error}
    (h : xs.mapM f = .error e) : ∃ x ∈ xs, f x = .error e := by
  induction xs with
  | nil => cases h
  | cons x xs ih =>
    rw [List.mapM_cons] at h
    cases hx : f x with
    | error e' =>
      rw [hx] at h
      cases h
      exact ⟨x, List.mem_cons_self, hx⟩
    | ok y =>
      rw [hx] at h
      cases hxs : xs.mapM f with
      | error e' =>
        rw [hxs] at h
        cases h
        obtain ⟨x', hx', hfail⟩ := ih hxs
        exact ⟨x', List.mem_cons_of_mem x hx', hfail⟩
      | ok ys =>
        rw [hxs] at h
        cases h

/-- On a text, nothing fails but weak parsing. -/
theorem exists_digitLimit_of_outcome {x : Matcher m} {s : String} {e : Error}
    (h : x.outcome (.run (.str s)) = .error e ∨ x.outcome (.matchAll (.str s)) = .error e) :
    x.options.weak.truthy = true ∧ ∃ n, digitLimit < n ∧ e = .digitLimit n := by
  have hone : (∃ o, x.valuesAt o = .error e) := by
    have hall : x.allValues (.str s) = .error e → ∃ o, x.valuesAt o = .error e := by
      intro hvalues
      obtain ⟨o, -, ho⟩ := exists_error_of_mapM hvalues
      exact ⟨o, ho⟩
    rcases h with h | h
    · rw [outcome] at h
      split at h
      · exact hall (eq_error_of_map h)
      · have hfirst := eq_error_of_map h
        rw [firstValues_str] at hfirst
        split at hfirst
        · cases hfirst
        · next o _ => exact ⟨o, eq_error_of_map hfirst⟩
    · exact hall (eq_error_of_map h)
  obtain ⟨o, ho⟩ := hone
  obtain ⟨t, ht, rfl⟩ := FieldValues.ofCaptures_eq_error_iff.1 ho
  have hfound := List.find?_some ht
  rw [Bool.and_eq_true] at hfound
  exact ⟨hfound.1, _, lt_length_of_isOverlong hfound.2, rfl⟩

section Standard

variable [Monad m] {x : Matcher m}

theorem isStandard_of_prepared {expression options : Value} {x : Matcher m}
    (h : prepared expression options = .ok x) : x.IsStandard := by
  obtain ⟨settled, text, left, right, -, -, rfl⟩ := prepared_eq_ok_iff.1 h
  rfl

/-- With other options that settle to the same markers, white space and weak parsing, the expression
is prepared too, and all occurrences have the same values. -/
theorem exists_prepared_of_resolve {expression options options' : Value} {x : Matcher m}
    {global : Value} (h : prepared expression options = .ok x)
    (hoptions : Options.resolve options' = .ok { x.options with global := global }) :
    ∃ y : Matcher m, prepared expression options' = .ok y ∧ y.options.global = global ∧
      y.allValues = x.allValues := by
  obtain ⟨settled, text, left, right, -, htexts, rfl⟩ := prepared_eq_ok_iff.1 h
  exact ⟨ofTexts { settled with global := global } text left right,
    prepared_eq_ok_iff.2 ⟨_, text, left, right, hoptions, htexts, rfl⟩, rfl, rfl⟩

variable [LawfulMonad m]

theorem matchFirst_ends (hx : x.IsStandard) (text : Value) :
    (x.matchFirst text).Ends (x.firstValues text) [] := by
  have hsearch : x.regex.search text = pure ((Engine.subject text).map fun s =>
      (x.compiled.atoms.search? {} s).map Occurrence.hit) := by
    rw [show x.regex = _ from hx]
    rfl
  rw [matchFirst, firstValues]
  cases hsubject : Engine.subject text with
  | error failure =>
    rw [hsubject] at hsearch
    exact (Ends.perform hsearch).bind (Ends.throw _)
  | ok s =>
    rw [hsubject] at hsearch
    dsimp only
    cases hfound : x.compiled.atoms.search? {} s with
    | none =>
      simp only [Except.map, hfound, Option.map_none] at hsearch
      exact (Ends.perform hsearch).bind (Ends.pure _)
    | some o =>
      simp only [Except.map, hfound, Option.map_some] at hsearch
      exact (Ends.perform hsearch).bind ((Ends.ofExcept (x.valuesAt o)).map some)

omit [Monad m] [LawfulMonad m] in
theorem valuesOfScan_of_complete (x : Matcher m) (hits : List Hit) :
    x.valuesOfScan ⟨hits, none⟩ = hits.mapM fun hit => x.valuesOf hit.groups := by
  rw [valuesOfScan]
  exact bind_pure _

theorem matchAll_ends (hx : x.IsStandard) (text : Value) :
    ∃ records, (x.matchAll text).Ends (x.allValues text) records := by
  have hscan : x.regex.scan text = pure (.ofExcept ((Engine.subject text).map fun s =>
      (x.compiled.atoms.findAll {} s).map Occurrence.hit)) := by
    rw [show x.regex = _ from hx]
    rfl
  have hvalues : x.valuesOfScan (.ofExcept ((Engine.subject text).map fun s =>
      (x.compiled.atoms.findAll {} s).map Occurrence.hit)) = x.allValues text := by
    rw [allValues]
    cases Engine.subject text with
    | error failure => rfl
    | ok s =>
      refine (valuesOfScan_of_complete x _).trans ?_
      rw [List.mapM_map]
      rfl
  rw [matchAll]
  have hr : (MonadExcept.ofExcept (x.allValues text) : Action m (List FieldValues)).Ends
      (x.allValues text) [] := Ends.ofExcept _
  cases hall : x.allValues text with
  | error e =>
    rw [hall] at hvalues hr
    exact ⟨_, (Ends.perform hscan).bind (by rw [hvalues]; exact hr.bind_error)⟩
  | ok values =>
    rw [hall] at hvalues hr
    exact ⟨_, (Ends.perform hscan).bind
      (by rw [hvalues]; exact hr.bind ((Ends.record _).bind (Ends.pure values)))⟩

/-- A reply is the outcome of the request; besides, only records are written. -/
theorem reply_ends (hx : x.IsStandard) (r : Request) :
    ∃ records, (x.reply r).Ends (x.outcome r) records := by
  cases r with
  | run text =>
    rw [reply, run, outcome]
    split
    · obtain ⟨records, hall⟩ := matchAll_ends hx text
      exact ⟨records, hall.map Answer.all⟩
    · exact ⟨[], (matchFirst_ends hx text).map Answer.first⟩
  | matchAll text =>
    obtain ⟨records, hall⟩ := matchAll_ends hx text
    exact ⟨records, hall.map Answer.all⟩

/-- The replies of a session are the outcomes of its requests, one by one. -/
theorem replies_run (hx : x.IsStandard) (requests : List Request) (log : Log) :
    ∃ log', (x.replies requests).run log = pure (requests.map x.outcome, log') := by
  induction requests generalizing log with
  | nil => exact ⟨log, rfl⟩
  | cons r requests ih =>
    obtain ⟨records, hreply⟩ := reply_ends hx r
    obtain ⟨log', hrest⟩ := ih (log ++ records)
    refine ⟨log', ?_⟩
    rw [replies] at hrest ⊢
    rw [List.mapM_cons, StateT.run_bind, hreply log, pure_bind, StateT.run_bind, hrest, pure_bind]
    rfl

end Standard

/-- The matcher gives this reply to a request after any session. -/
def Replies (x : Matcher Id) (r : Request) (reply : Except Error Answer) : Prop :=
  ∀ (session : List Request) (log : Log),
    ((x.replies (session ++ [r])).run log).1.getLast? = some reply

theorem replies_iff {x : Matcher Id} (hx : x.IsStandard) {r : Request}
    {reply : Except Error Answer} : x.Replies r reply ↔ x.outcome r = reply := by
  have hlast : ∀ session log,
      ((x.replies (session ++ [r])).run log).1.getLast? = some (x.outcome r) := by
    intro session log
    obtain ⟨log', hrun⟩ := replies_run hx (session ++ [r]) log
    rw [hrun, List.map_append, List.map_singleton]
    exact List.getLast?_concat
  constructor
  · intro h
    exact Option.some.inj ((hlast [] []).symm.trans (h [] []))
  · rintro rfl
    exact hlast

end Matcher

open Matcher (Request)

/-- If a matcher on the standard engine, at some point of its use, gives values for all occurrences
in a text, then at every point of its use it gives these when asked for all of them, and when asked
for what its options say, it gives these under the global option and else the first of them, which
is nothing exactly if there are none. The same holds of the matcher of the same expression with the
global option set in any other way. -/
theorem replies_agree {expression options : Value} {x : Matcher Id} {log log' : Log}
    (hx : (Matcher.create none expression options : Action Id (Matcher Id)).report = (.ok x, log))
    {text : Value} {values : List FieldValues} {session : List Request}
    (hvalues : ((x.replies (session ++ [.matchAll text])).run log').1.getLast? =
      some (.ok (.all values))) :
    (x.Replies (.matchAll text) (.ok (.all values)) ∧
        x.Replies (.run text)
          (.ok (if x.options.global.truthy then .all values else .first values.head?))) ∧
      ∀ (options' global : Value),
        Options.resolve options' = .ok { x.options with global := global } →
          ∃ (y : Matcher Id) (written : Log),
            (Matcher.create none expression options' : Action Id (Matcher Id)).report =
                (.ok y, written) ∧
              y.Replies (.matchAll text) (.ok (.all values)) ∧
                y.Replies (.run text)
                  (.ok (if global.truthy then .all values else .first values.head?)) := by
  have hprepared := Matcher.create_report_eq_ok_iff.1 ⟨log, hx⟩
  have hstandard := Matcher.isStandard_of_prepared hprepared
  have hall : x.allValues text = .ok values := by
    obtain ⟨_, hrun⟩ := Matcher.replies_run hstandard (session ++ [.matchAll text]) log'
    rw [hrun, List.map_append, List.map_singleton] at hvalues
    have houtcome := Option.some.inj (List.getLast?_concat.symm.trans hvalues)
    rw [Matcher.outcome] at houtcome
    cases hvalues : x.allValues text with
    | error e =>
      rw [hvalues] at houtcome
      cases houtcome
    | ok others =>
      rw [hvalues] at houtcome
      cases houtcome
      rfl
  have hreplies : ∀ {y : Matcher Id}, y.IsStandard → y.allValues text = .ok values →
      y.Replies (.matchAll text) (.ok (.all values)) ∧
        y.Replies (.run text)
          (.ok (if y.options.global.truthy then .all values else .first values.head?)) := by
    intro y hy hvalues
    obtain ⟨hmatchAll, hrun⟩ := Matcher.outcome_of_allValues hvalues
    exact ⟨(Matcher.replies_iff hy).2 hmatchAll, (Matcher.replies_iff hy).2 hrun⟩
  refine ⟨hreplies hstandard hall, ?_⟩
  intro options' global hoptions
  obtain ⟨y, hy, rfl, hsame⟩ := Matcher.exists_prepared_of_resolve hprepared hoptions
  obtain ⟨written, hreport⟩ := Matcher.create_report_eq_ok_iff.2 hy
  refine ⟨y, written, hreport, ?_⟩
  apply hreplies (Matcher.isStandard_of_prepared hy)
  rw [hsame]
  exact hall

/-- A request that is no text fails; behind it, a field of any text is matched with an empty
occurrence at the end of each line. -/
theorem replies_agree_lines :
    ∃ (x : Matcher Id) (log : Log),
      (Matcher.create none (.str "a*") (.map [(.str "weakParse", .bool true)]) :
          Action Id (Matcher Id)).report = (.ok x, log) ∧
        ((x.replies ([.run (.int 5)] ++ [.matchAll (.str "1\n2")])).run []).1.getLast? =
          some (.ok (.all [[("a", .number 1)], [("a", .text "")], [("a", .number 2)],
            [("a", .text "")]])) ∧
        x.Replies (.run (.str "1\n2")) (.ok (.first (some [("a", .number 1)]))) := by
  let settled : Options := ⟨.bool false, .bare, .bool false, .bool true⟩
  let x : Matcher Id := Matcher.ofTexts settled "a*" [] []
  have hprepared : Matcher.prepared (.str "a*") (.map [(.str "weakParse", .bool true)]) =
      .ok x := by
    rfl
  obtain ⟨log, hx⟩ := Matcher.create_report_eq_ok_iff.2 hprepared
  have houtcome : x.outcome (.matchAll (.str "1\n2")) =
      .ok (.all [[("a", .number 1)], [("a", .text "")], [("a", .number 2)],
        [("a", .text "")]]) := by
    decide
  have hvalues := (Matcher.replies_iff (Matcher.isStandard_of_prepared hprepared)).2 houtcome [.run (.int 5)] []
  exact ⟨x, log, hx, hvalues, (replies_agree hx hvalues).1.2⟩

end FieldPattern
