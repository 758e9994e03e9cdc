import FieldPattern.Command.Run
import FieldPattern.Proofs.Document.Placed
import FieldPattern.Proofs.Library.Update
import FieldPattern.Proofs.Options.Canonical

/-!
# How loading a library fails

A load of a library file either goes through or ends with an error, and which error this is depends
on the bytes of the file alone, by way of the parser of documents (`LoadFails`). The errors of a
library are for a document that breaks the rules of its format, for one without a mapping of
patterns, and for an entry without an expression. They do not cover all that can be wrong with a
file. A document of the right form may have bytes that are no text, or a scalar that names no value,
such as a date that does not exist. And the key of an entry or one of its markers may have no text:
an integer of more than 4300 digits stands in it then, at some depth (`LoadFails.hasLongInteger`).
These faults pass through a load as they are.

The commands on a library make the same difference. An error of the library is told on the error
output, with exit code 2; a fault that is none breaks the command off, and nothing is told of it
(`load_fails`).

Any parser will do whose values miss none of their collections, as those of documents do. Two things
are out of account. A key or a marker that is nested deeply, by collections that refer to one
another, may be too deep for the stack of the one who writes it; here every value of short integers
has a text, while what is nested too deeply in a document is a fault of the document
(`Document.Fault.tooDeep`). And texts are made of characters, so an escape that names half of a
surrogate pair is a fault too (`Document.Fault.surrogate`).
-/

namespace FieldPattern

open FieldPattern.Action (Ends)
open FieldPattern.Library

/-! ## Reasons -/

/-- An entry of a library file is rejected with this error. -/
inductive EntryFails (path : String) (key entry : Value) : Error → Prop
  /-- The key has no text. -/
  | key (hkey : key.text = none) : EntryFails path key entry .unwritableNumber
  /-- The entry is no mapping with a text for its expression. -/
  | expression {name : String} (hkey : key.text = some name)
      (h : ∀ fields s, entry.expose = .map fields →
        Value.lookup? fields "expression" ≠ some (.str s)) :
      EntryFails path key entry (.noExpression path name)
  /-- One of the markers of the entry has no text. -/
  | markers {name s : String} {fields : List (Value × Value)} (hkey : key.text = some name)
      (hfields : entry.expose = .map fields)
      (hexpression : Value.lookup? fields "expression" = some (.str s))
      (h : Options.resolve entry = .error .unwritableNumber) :
      EntryFails path key entry .unwritableNumber

/-- A load of a file with these bytes, which the parser reads, ends with this error. -/
inductive LoadFails (parse : Text.Feed → Except Document.Fault Value) (path : String)
    (bytes : ByteArray) : Error → Prop
  | malformed (h : parse (.ofBytes bytes) = .error .malformed) :
      LoadFails parse path bytes (.unreadable path)
  /-- The bytes are no text, or a scalar names no value, or something is too large. -/
  | fault {fault : Document.Fault} (hfault : fault ≠ .malformed)
      (h : parse (.ofBytes bytes) = .error fault) : LoadFails parse path bytes (.document fault)
  /-- The document is not empty and has no mapping of patterns. -/
  | patterns {data : Value} (h : parse (.ofBytes bytes) = .ok data) (htruthy : data.truthy = true)
      (hnone : ∀ entries, ¬ HasPatterns data entries) :
      LoadFails parse path bytes (.noPatterns path)
  /-- This entry is rejected, and those before it are not. -/
  | entry {data : Value} {before rest : List (Value × Value)} {x : Value × Value} {e : Error}
      (h : parse (.ofBytes bytes) = .ok data) (htruthy : data.truthy = true)
      (hentries : HasPatterns data (before ++ x :: rest))
      (hbefore : ∀ z ∈ before, ∃ d, Defines z d) (hentry : EntryFails path x.1 x.2 e) :
      LoadFails parse path bytes e

/-! ## Markers and options -/

theorem Markers.eq_of_side_eq_error {v : Value} {e : Error} (h : side v = .error e) :
    e = .unwritableNumber := by
  unfold side at h
  split at h
  · cases h
  · split at h
    · cases h
    · exact (Except.error.inj h).symm

theorem Markers.eq_of_ofSides_eq_error {left right : Value} {e : Error}
    (h : ofSides left right = .error e) : e = .unwritableNumber := by
  rcases bind_eq_error_iff.1 h with hleft | ⟨l, -, h⟩
  · exact eq_of_side_eq_error hleft
  · rcases bind_eq_error_iff.1 h with hright | ⟨r, -, h⟩
    · exact eq_of_side_eq_error hright
    · cases h

/-- The only thing that can be wrong with markers is a number that is too long. -/
theorem Markers.eq_of_resolve_eq_error {spec : Value} {e : Error} (h : resolve spec = .error e) :
    e = .unwritableNumber := by
  rw [resolve] at h
  split at h
  · cases h
  · split at h
    · cases h
    · cases h
    · exact eq_of_ofSides_eq_error h
    · exact eq_of_ofSides_eq_error h
    · exact eq_of_ofSides_eq_error h
    · exact eq_of_ofSides_eq_error h
    · cases h

theorem Options.eq_of_resolve_eq_error {spec : Value} {e : Error} (h : resolve spec = .error e) :
    e = .unwritableNumber := by
  rw [resolve] at h
  split at h
  · cases h
  · cases h
  · rcases bind_eq_error_iff.1 h with hmarkers | ⟨m, -, h⟩
    · exact Markers.eq_of_resolve_eq_error hmarkers
    · cases h
  · cases h

/-! ## Integers that are too long -/

theorem Markers.isWhole_of_sides? {spec left right : Value} (h : spec.IsWhole)
    (hsides : sides? spec = some (left, right)) : left.IsWhole ∧ right.IsWhole := by
  have hpart : ∀ w ∈ spec.parts, w.IsWhole := fun _ hw => h.of_mem_parts hw
  unfold sides? at hsides
  split at hsides
  · next hspec =>
    cases hsides
    rw [Value.parts, hspec] at hpart
    exact ⟨hpart _ (by simp), hpart _ (by simp)⟩
  · next hspec =>
    cases hsides
    rw [Value.parts, hspec] at hpart
    exact ⟨hpart _ (by simp), hpart _ (by simp)⟩
  · next hspec =>
    cases hsides
    exact ⟨h.lookup? hspec _, h.lookup? hspec _⟩
  · next hspec =>
    cases hsides
    exact ⟨h.attribute? hspec (by decide), h.attribute? hspec (by decide)⟩
  · cases hsides

theorem Options.isWhole_markerSpec {entry : Value} (h : entry.IsWhole)
    {fields : List (Value × Value)} (hfields : entry.expose = .map fields) :
    (markerSpec entry).IsWhole := by
  rw [markerSpec, hfields]
  dsimp only
  rw [Key.value]
  have hfirst := h.lookup? hfields markersKey.first
  cases hlookup : Value.lookup? fields markersKey.first with
  | none => exact h.lookup? hfields markersKey.second
  | some v =>
    rw [hlookup] at hfirst
    exact hfirst

/-- Markers that do not resolve have an integer on one of their sides that is too long. -/
theorem Options.hasLongInteger_of_resolve_eq_error {entry : Value} {e : Error}
    (h : entry.IsWhole) {fields : List (Value × Value)} (hfields : entry.expose = .map fields)
    (herror : resolve entry = .error e) :
    ∃ left right, Markers.sides? (markerSpec entry) = some (left, right) ∧
      (left.HasLongInteger ∨ right.HasLongInteger) := by
  by_contra hnone
  have hsettled : isSettled entry.expose = false := by
    rw [hfields]
    rfl
  have hwritable : ∀ left right, Markers.sides? (markerSpec entry) = some (left, right) →
      left.IsWritable ∧ right.IsWritable := by
    intro left right hsides
    obtain ⟨hleft, hright⟩ := Markers.isWhole_of_sides? (isWhole_markerSpec h hfields) hsides
    exact ⟨hleft.isWritable fun hlong => hnone ⟨left, right, hsides, Or.inl hlong⟩,
      hright.isWritable fun hlong => hnone ⟨left, right, hsides, Or.inr hlong⟩⟩
  obtain ⟨o, ho, -⟩ := exists_resolve hsettled hwritable
  rw [herror] at ho
  cases ho

/-- An entry without an error of the library has an integer that is too long in its key or on one of
the sides of its markers. -/
theorem EntryFails.hasLongInteger {path : String} {key entry : Value} (hkey : key.IsWhole)
    (hentry : entry.IsWhole) (h : EntryFails path key entry .unwritableNumber) :
    key.HasLongInteger ∨ ∃ left right,
      Markers.sides? (Options.markerSpec entry) = some (left, right) ∧
        (left.HasLongInteger ∨ right.HasLongInteger) := by
  cases h with
  | key htext => exact Or.inl (hkey.hasLongInteger_of_text_eq_none htext)
  | markers _ hfields _ hresolve =>
    exact Or.inr (Options.hasLongInteger_of_resolve_eq_error hentry hfields hresolve)

/-- What stands in the entries of a document stands in the document. -/
theorem Library.HasPatterns.isWhole {data : Value} {entries : List (Value × Value)}
    (h : HasPatterns data entries) (hdata : data.IsWhole) :
    ∀ x ∈ entries, x.1.IsWhole ∧ x.2.IsWhole := by
  obtain ⟨fields, hfields, ⟨-, rfl⟩ | ⟨v, hv, hentries⟩⟩ := h
  · simp
  · have hpatterns := hdata.lookup? hfields "patterns"
    rw [hv] at hpatterns
    exact fun x hx => hpatterns.entry hentries hx

/-! ## Entries -/

namespace Library

theorem readEntry_report_of_options (path name : String) {s : String} {entry : Value}
    {fields : List (Value × Value)} (hfields : entry.expose = .map fields)
    (hexpression : Value.lookup? fields "expression" = some (.str s)) :
    ∃ log, (readEntry path name entry).report =
      ((Options.resolve entry).map fun o =>
        ⟨name, s, (Value.lookup? fields "description").getD .null, o⟩, log) := by
  have hends := (Options.resolveLogged_ends (m := Id) entry).map fun o =>
    Definition.mk name s ((Value.lookup? fields "description").getD .null) o
  rw [readEntry, hfields]
  dsimp only
  rw [hexpression]
  exact ⟨_, hends.report⟩

theorem readEntry_report_of_no_expression {path name : String} {entry : Value}
    (h : ∀ fields s, entry.expose = .map fields →
      Value.lookup? fields "expression" ≠ some (.str s)) :
    (readEntry path name entry).report = (.error (.noExpression path name), []) := by
  rw [readEntry]
  split
  · next fields hfields =>
    split
    · next s hexpression =>
      obtain ⟨v, hv, htext⟩ := Option.bind_eq_some_iff.1 hexpression
      cases v with
      | str s => exact absurd hv (h fields s hfields)
      | _ => cases htext
    · exact (Ends.throw _).report
  · exact (Ends.throw _).report

/-- An entry is rejected for one of the reasons. -/
theorem readKeyed_report_eq_error_iff {path : String} {key entry : Value} {e : Error} :
    (∃ log, (readKeyed path key entry).report = (.error e, log)) ↔ EntryFails path key entry e := by
  constructor
  · rintro ⟨log, h⟩
    cases hkey : key.text with
    | none =>
      rw [readKeyed, hkey] at h
      cases (Ends.throw _).eq_of_report h
      exact .key hkey
    | some name =>
      rw [readKeyed_report_of_text path hkey] at h
      have hread := eq_error_of_map (congrArg Prod.fst h)
      by_cases hexpression : ∃ fields s, entry.expose = .map fields ∧
          Value.lookup? fields "expression" = some (.str s)
      · obtain ⟨fields, s, hfields, hs⟩ := hexpression
        obtain ⟨log', hreport⟩ := readEntry_report_of_options path name hfields hs
        rw [hreport] at hread
        have hresolve := eq_error_of_map hread
        obtain rfl := Options.eq_of_resolve_eq_error hresolve
        exact .markers hkey hfields hs hresolve
      · have hnone : ∀ fields s, entry.expose = .map fields →
            Value.lookup? fields "expression" ≠ some (.str s) :=
          fun fields s hfields hs => hexpression ⟨fields, s, hfields, hs⟩
        rw [readEntry_report_of_no_expression hnone] at hread
        cases hread
        exact .expression hkey hnone
  · intro h
    cases h with
    | key hkey =>
      rw [readKeyed, hkey]
      exact ⟨_, (Ends.throw _).report⟩
    | expression hkey hnone =>
      rw [readKeyed_report_of_text path hkey, readEntry_report_of_no_expression hnone]
      exact ⟨_, rfl⟩
    | markers hkey hfields hexpression hresolve =>
      obtain ⟨log, hreport⟩ := readEntry_report_of_options path _ hfields hexpression
      rw [readKeyed_report_of_text path hkey, hreport, hresolve]
      exact ⟨_, rfl⟩

/-- The first element that stops a list is its head, or the head passes and it is in the rest. -/
theorem exists_first_cons_iff {α : Type} {passes stops : α → Prop} {x : α} {xs : List α} :
    (∃ before y rest, x :: xs = before ++ y :: rest ∧ (∀ z ∈ before, passes z) ∧ stops y) ↔
      stops x ∨ (passes x ∧
        ∃ before y rest, xs = before ++ y :: rest ∧ (∀ z ∈ before, passes z) ∧ stops y) := by
  constructor
  · rintro ⟨before, y, rest, hsplit, hbefore, hy⟩
    cases before with
    | nil =>
      cases hsplit
      exact Or.inl hy
    | cons z before =>
      cases hsplit
      exact Or.inr ⟨hbefore x List.mem_cons_self, before, y, rest, rfl,
        fun z hz => hbefore z (List.mem_cons_of_mem _ hz), hy⟩
  · rintro (hx | ⟨hx, before, y, rest, rfl, hbefore, hy⟩)
    · exact ⟨[], x, xs, rfl, fun _ hz => absurd hz List.not_mem_nil, hx⟩
    · exact ⟨x :: before, y, rest, rfl, List.forall_mem_cons.2 ⟨hx, hbefore⟩, hy⟩

/-- Adding entries ends with the error of the first one that is rejected. -/
theorem outcome_addEntries_eq_error_iff {l : Library} {entries : List (Value × Value)} {e : Error} :
    (l.addEntries entries).outcome = .error e ↔
      ∃ before x rest, entries = before ++ x :: rest ∧ (∀ z ∈ before, ∃ d, Defines z d) ∧
        EntryFails l.path x.1 x.2 e := by
  induction entries generalizing l with
  | nil =>
    constructor
    · intro h
      cases h
    · rintro ⟨before, x, rest, hsplit, -⟩
      cases before <;> cases hsplit
  | cons x more ih =>
    obtain ⟨key, entry⟩ := x
    rw [exists_first_cons_iff, addEntries]
    rcases hreport : Id.run (readKeyed l.path key entry).report with ⟨error | d, log⟩
    · have hrejected : ¬ ∃ d, Defines (key, entry) d := by
        rintro ⟨d, hd⟩
        obtain ⟨log', hok⟩ := readKeyed_report_eq_ok_iff.2 hd
        cases hok.symm.trans hreport
      constructor
      · rintro ⟨⟩
        exact Or.inl (readKeyed_report_eq_error_iff.1 ⟨log, hreport⟩)
      · rintro (hfails | ⟨hd, -⟩)
        · obtain ⟨log', herror⟩ := readKeyed_report_eq_error_iff.2 hfails
          cases herror.symm.trans hreport
          rfl
        · exact absurd hd hrejected
    · have hd : Defines (key, entry) d := readKeyed_report_eq_ok_iff.1 ⟨log, hreport⟩
      have haccepted : ¬ EntryFails l.path key entry e := by
        intro hfails
        obtain ⟨log', herror⟩ := readKeyed_report_eq_error_iff.2 hfails
        cases herror.symm.trans hreport
      dsimp only
      rw [ih, path_put, or_iff_right haccepted, and_iff_right ⟨d, hd⟩]

/-! ## Loads -/

variable {l : Library} {e : Error}

theorem outcome_update_eq_error_iff {data : Value} :
    (l.update data).outcome = .error e ↔ data.truthy = true ∧
      (((∀ entries, ¬ HasPatterns data entries) ∧ e = .noPatterns l.path) ∨
        ∃ before x rest, HasPatterns data (before ++ x :: rest) ∧
          (∀ z ∈ before, ∃ d, Defines z d) ∧ EntryFails l.path x.1 x.2 e) := by
  constructor
  · intro h
    cases htruthy : data.truthy with
    | false =>
      rw [update_of_not_truthy htruthy] at h
      cases h
    | true =>
      refine ⟨rfl, ?_⟩
      by_cases hpatterns : ∃ entries, HasPatterns data entries
      · obtain ⟨entries, hentries⟩ := hpatterns
        rw [outcome_update_of_hasPatterns htruthy hentries] at h
        obtain ⟨before, x, rest, rfl, hbefore, hfails⟩ := outcome_addEntries_eq_error_iff.1 h
        exact Or.inr ⟨before, x, rest, hentries, hbefore, hfails⟩
      · have hnone := not_exists.1 hpatterns
        rw [update_of_not_hasPatterns htruthy hnone] at h
        cases h
        exact Or.inl ⟨hnone, rfl⟩
  · rintro ⟨htruthy, ⟨hnone, rfl⟩ | ⟨before, x, rest, hentries, hbefore, hfails⟩⟩
    · rw [update_of_not_hasPatterns htruthy hnone]
    · rw [outcome_update_of_hasPatterns htruthy hentries, outcome_addEntries_eq_error_iff]
      exact ⟨before, x, rest, rfl, hbefore, hfails⟩

/-- A malformed document is an error of the library, and any other fault is passed on. -/
theorem readFile_file (parse : Text.Feed → Except Document.Fault Value) (path : String)
    (bytes : ByteArray) :
    readFile parse path (.file bytes) = (parse (.ofBytes bytes)).mapError fun fault =>
      if fault = .malformed then .unreadable path else .document fault := by
  rw [readFile]
  change pure (Text.Feed.ofBytes bytes) >>= _ = _
  rw [pure_bind]
  cases parse (.ofBytes bytes) with
  | ok data => rfl
  | error fault => cases fault <;> rfl

variable {parse : Text.Feed → Except Document.Fault Value}

theorem outcome_loadWith_of_readFile {file : FileState} (hpresent : file.present = true)
    (h : readFile parse l.path file = .error e) : (l.loadWith parse file).outcome = .error e := by
  rw [loadWith, loadFrom, hpresent, h]
  rfl

/-- The errors of a load are these, and each of them for its reason. -/
theorem outcome_loadWith_eq_error_iff {bytes : ByteArray} :
    (l.loadWith parse (.file bytes)).outcome = .error e ↔ LoadFails parse l.path bytes e := by
  have hread := readFile_file parse l.path bytes
  constructor
  · intro h
    cases hvalue : parse (.ofBytes bytes) with
    | error fault =>
      rw [hvalue, Except.mapError] at hread
      cases h.symm.trans (outcome_loadWith_of_readFile rfl hread)
      by_cases hfault : fault = .malformed
      · rw [if_pos hfault]
        exact .malformed (hfault ▸ hvalue)
      · rw [if_neg hfault]
        exact .fault hfault hvalue
    | ok data =>
      rw [hvalue] at hread
      rw [loadWith_of_readFile hread] at h
      obtain ⟨htruthy, ⟨hnone, rfl⟩ | ⟨before, x, rest, hentries, hbefore, hfails⟩⟩ :=
        outcome_update_eq_error_iff.1 h
      · exact .patterns hvalue htruthy hnone
      · exact .entry hvalue htruthy hentries hbefore hfails
  · intro h
    cases h with
    | malformed hvalue =>
      rw [hvalue, Except.mapError, if_pos rfl] at hread
      exact outcome_loadWith_of_readFile rfl hread
    | fault hfault hvalue =>
      rw [hvalue, Except.mapError, if_neg hfault] at hread
      exact outcome_loadWith_of_readFile rfl hread
    | patterns hvalue htruthy hnone =>
      rw [hvalue] at hread
      rw [loadWith_of_readFile hread, outcome_update_eq_error_iff]
      exact ⟨htruthy, Or.inl ⟨hnone, rfl⟩⟩
    | entry hvalue htruthy hentries hbefore hfails =>
      rw [hvalue] at hread
      rw [loadWith_of_readFile hread, outcome_update_eq_error_iff]
      exact ⟨htruthy, Or.inr ⟨_, _, _, hentries, hbefore, hfails⟩⟩

end Library

namespace LoadFails

variable {parse : Text.Feed → Except Document.Fault Value} {path : String} {bytes : ByteArray}
  {e : Error}

/-- Faults of the document and numbers that are too long are no errors of the library. -/
theorem isUserError_eq_false_iff (h : LoadFails parse path bytes e) :
    e.isUserError = false ↔ (∃ fault, e = .document fault) ∨ e = .unwritableNumber := by
  constructor
  · intro hother
    cases h with
    | malformed => cases hother
    | fault => exact Or.inl ⟨_, rfl⟩
    | patterns => cases hother
    | entry _ _ _ _ hentry =>
      cases hentry with
      | key => exact Or.inr rfl
      | expression => cases hother
      | markers => exact Or.inr rfl
  · rintro (⟨fault, rfl⟩ | rfl)
    · rfl
    · rfl

/-- A load that stops at a number that is too long stops at an entry with an integer that is, in its
key or on one of the sides of its markers. -/
theorem hasLongInteger (hparse : ∀ feed data, parse feed = .ok data → data.IsWhole)
    (h : LoadFails parse path bytes .unwritableNumber) :
    ∃ data before x rest, parse (.ofBytes bytes) = .ok data ∧
      HasPatterns data (before ++ x :: rest) ∧ (∀ z ∈ before, ∃ d, Defines z d) ∧
        (x.1.HasLongInteger ∨ ∃ left right,
          Markers.sides? (Options.markerSpec x.2) = some (left, right) ∧
            (left.HasLongInteger ∨ right.HasLongInteger)) := by
  cases h with
  | entry hvalue htruthy hentries hbefore hentry =>
    obtain ⟨hkey, hwhole⟩ := hentries.isWhole (hparse _ _ hvalue) _
      (List.mem_append_right _ List.mem_cons_self)
    exact ⟨_, _, _, _, hvalue, hentries, hbefore, hentry.hasLongInteger hkey hwhole⟩

end LoadFails

/-! ## Commands -/

namespace Command

/-- The outcome of a command that was stopped by an error after these records: nothing is printed,
and either the error is told or it is passed on. -/
structure Outcome.Stops (o : Outcome) (view : LogView) (records : Log) (e : Error) : Prop where
  stdout_eq : o.stdout = ""
  of_user : e.isUserError = true →
    o.stderr = view.render records ++ Display.plain ("Error: " ++ e.message ++ "\n") ∧
      o.exit = 2 ∧ o.error = none
  of_other : e.isUserError = false →
    o.stderr = view.render records ∧ o.exit = 1 ∧ o.error = some e

theorem Outcome.stops_ofAction (view : LogView) (records : Log) (e : Error) :
    (Outcome.ofAction view (.error e, records)).Stops view records e := by
  change Outcome.Stops
    { Outcome.ofError e with stderr := view.render records ++ (Outcome.ofError e).stderr } view
      records e
  cases huser : e.isUserError with
  | true =>
    rw [ofError, if_pos huser]
    refine ⟨rfl, fun _ => ⟨rfl, rfl, rfl⟩, ?_⟩
    intro hother
    cases huser.symm.trans hother
  | false =>
    have hother : ¬ e.isUserError = true := by
      rw [huser]
      exact Bool.false_ne_true
    rw [ofError, if_neg hother]
    refine ⟨rfl, fun h => absurd h hother, fun _ => ⟨?_, rfl, rfl⟩⟩
    exact String.append_empty

variable {m : Type → Type} [Monad m] [LawfulMonad m]

/-- A command on a library ends with the error of the load, before it does anything else. -/
theorem withLibrary_ends {h : Host m} {settings : Settings} {path : Option String}
    {file : FileState} {loading : Loading} {e : Error} (use : Library → Action m Report)
    (hfile : h.file ((path.map Path.normal).getD settings.libraryPath) = pure file)
    (hpresent : file.present = true)
    (hloading : loading = (Library.empty
      ((path.map Path.normal).getD settings.libraryPath)).loadWith h.parse file)
    (herror : loading.outcome = .error e) :
    (withLibrary h settings path use).Ends (.error e) loading.log := by
  have hpassed : ¬ (!file.present) = true := by
    rw [hpresent]
    exact Bool.false_ne_true
  have hfailed : (MonadExcept.ofExcept loading.outcome : Action m Unit).Ends (.error e) [] := by
    rw [herror]
    exact Ends.ofExcept _
  have hended : (withLibrary h settings path use).Ends (.error e) ([] ++ (loading.log ++ [])) := by
    refine Ends.bind (Ends.perform hfile) ?_
    rw [if_neg hpassed]
    subst hloading
    exact Ends.bind (Ends.recordAll _) hfailed.bind_error
  rw [List.nil_append, List.append_nil] at hended
  exact hended

end Command

open Command

/-- What becomes of a library file that cannot be loaded. A load of the file fails exactly for one of
the reasons, with the error that belongs to it. This error is none of the library exactly if it is a
fault of the document that does not make it malformed, or a number that is too long; then the first
entry that is rejected has an integer of more than 4300 digits in its key or on one of the sides of
its markers. A command on the library prints nothing if the load fails; it tells an error of the
library with exit code 2, and breaks off with any other one. -/
theorem load_fails {m : Type → Type} [Monad m] [LawfulMonad m]
    {parse : Text.Feed → Except Document.Fault Value}
    (hparse : ∀ feed data, parse feed = .ok data → data.IsWhole) :
    (∀ (l : Library) (bytes : ByteArray) (e : Error),
      (l.loadWith parse (.file bytes)).outcome = .error e ↔ LoadFails parse l.path bytes e) ∧
    (∀ (path : String) (bytes : ByteArray) (e : Error), LoadFails parse path bytes e →
      (e.isUserError = false ↔ (∃ fault, e = .document fault) ∨ e = .unwritableNumber)) ∧
    (∀ (path : String) (bytes : ByteArray), LoadFails parse path bytes .unwritableNumber →
      ∃ data before x rest, parse (.ofBytes bytes) = .ok data ∧
        HasPatterns data (before ++ x :: rest) ∧ (∀ z ∈ before, ∃ d, Defines z d) ∧
          (x.1.HasLongInteger ∨ ∃ left right,
            Markers.sides? (Options.markerSpec x.2) = some (left, right) ∧
              (left.HasLongInteger ∨ right.HasLongInteger))) ∧
    ∀ (h : Host m) (view : LogView) (path : Option String) (bytes : ByteArray) (loading : Loading)
        (e : Error) (i : Invocation), h.parse = parse →
      h.file ((path.map Path.normal).getD h.settings.libraryPath) = pure (.file bytes) →
        loading = (Library.empty
          ((path.map Path.normal).getD h.settings.libraryPath)).loadWith parse (.file bytes) →
        loading.outcome = .error e → (i = .list path ∨ ∃ name text, i = .run name text path) →
          ∃ o, runInvocation h view (.ok i) = pure o ∧ o.Stops view loading.log e := by
  refine ⟨fun _ _ _ => outcome_loadWith_eq_error_iff, fun _ _ _ h => h.isUserError_eq_false_iff,
    fun _ _ h => h.hasLongInteger hparse, ?_⟩
  rintro h view path bytes loading e i rfl hfile hloading herror hi
  obtain ⟨use, huse⟩ : ∃ use, perform h h.settings i = withLibrary h h.settings path use := by
    rcases hi with rfl | ⟨name, text, rfl⟩
    · rw [perform]
      exact ⟨_, rfl⟩
    · rw [perform]
      exact ⟨_, rfl⟩
  have hends : (perform h h.settings i).Ends (.error e) loading.log := by
    rw [huse]
    exact withLibrary_ends use hfile rfl hloading herror
  refine ⟨.ofAction view (.error e, loading.log), ?_, Outcome.stops_ofAction view loading.log e⟩
  rw [runInvocation, hends.report, pure_bind]

/-- The only pattern has a description that looks like a date, and the command that would list it
breaks off without a word. -/
theorem load_fails_impossible_date :
    ∃ (h : Host Id) (bytes : ByteArray) (loading : Loading) (e : Error),
      bytes = "patterns: {p: {expression: x, description: 2014-02-30}}".toUTF8 ∧
        loading = (Library.empty h.settings.libraryPath).load (.file bytes) ∧
        h.file h.settings.libraryPath = .file bytes ∧ loading.outcome = .error e ∧
        LoadFails Document.ofFeed (Library.empty h.settings.libraryPath).path bytes e ∧
        e.isUserError = false ∧ ∃ o, runInvocation h .unset (.ok (.list none)) = o ∧
          o.stdout = "" ∧ o.stderr = "" ∧ o.exit = 1 ∧
          o.error = some (.document (.calendar .day)) := by
  let bytes := "patterns: {p: {expression: x, description: 2014-02-30}}".toUTF8
  let h : Host Id :=
    { environment := fun _ => none
      directory := "/"
      input := ""
      file := fun _ => .file bytes }
  let loading := (Library.empty h.settings.libraryPath).load (.file bytes)
  let e : Error := .document (.calendar .day)
  have hends : loading.outcome = .error e ∧ loading.log = [] := by
    decide +kernel
  obtain ⟨houtcome, hlog⟩ := hends
  have hparse : ∀ feed data, Document.ofFeed feed = .ok data → data.IsWhole :=
    fun _ _ => Document.isWhole_of_ofFeed
  obtain ⟨hfails, hother, -, hcommand⟩ := load_fails (m := Id) hparse
  have hreason : LoadFails Document.ofFeed (Library.empty h.settings.libraryPath).path bytes e :=
    (hfails _ bytes e).1 houtcome
  have huser : e.isUserError = false := (hother _ bytes e hreason).2 (Or.inl ⟨_, rfl⟩)
  obtain ⟨o, ho, hstops⟩ :=
    hcommand h .unset none bytes loading e (.list none) rfl rfl rfl houtcome (Or.inl rfl)
  obtain ⟨hstderr, hexit, herror⟩ := hstops.of_other huser
  rw [hlog] at hstderr
  exact ⟨h, bytes, loading, e, rfl, rfl, rfl, houtcome, hreason, huser, o, ho, hstops.stdout_eq,
    hstderr, hexit, herror⟩

/-- A date that does not exist is no error of the library, though it stands where no date is
needed. -/
theorem load_impossible_date :
    ¬ ∀ (l : Library) (bytes : ByteArray),
      (l.load (.file bytes)).outcome = .ok () ∨
        ∃ e, (l.load (.file bytes)).outcome = .error e ∧ e.isUserError = true := by
  have houtcome : ((Library.empty "patterns.yaml").load (.file
      "patterns:\n  p:\n    expression: a=b\n    description: 2014-13-45\n".toUTF8)).outcome =
        .error (.document (.calendar .month)) := by
    decide +kernel
  intro h
  rcases h (Library.empty "patterns.yaml")
    "patterns:\n  p:\n    expression: a=b\n    description: 2014-13-45\n".toUTF8 with
    hok | ⟨e, he, huser⟩
  · cases houtcome.symm.trans hok
  · cases houtcome.symm.trans he
    cases huser

end FieldPattern
