import FieldPattern.Command.Run
import FieldPattern.Proofs.JsonLine.RoundTrip
import FieldPattern.Proofs.Matching.Session

/-!
# What a match command prints

A match command prints what the matcher finds: one line of JSON for each occurrence, and nothing if
there is none or if the values of one cannot be had. Between the matcher and the output stand the
two ways to ask, the writer of JSON and the removal of control sequences, which would not spare those
of captured texts. There is nothing to remove: a line holds printable characters only
(`isPlain_object`).

The commands read the library file and the text to match in an arbitrary monad, so nothing is said
about where these come from, only what is made of them. The matcher itself needs no monad, and what
it finds is said of the matcher in the monad without effects.
-/

namespace FieldPattern

open FieldPattern.Action (Asks Ends)

/-! ## Texts without control sequences -/

namespace Command.Display

theorem dropSequences_eq_self {s : List Char} (h : '\x1b' ∉ s) : dropSequences 0 s = s := by
  induction s with
  | nil => rfl
  | cons c s ih =>
    have hnone : sequenceLength (c :: s) = 0 := by
      rw [sequenceLength.eq_def]
      split
      · next heq =>
        cases heq
        exact absurd List.mem_cons_self h
      · rfl
    rw [dropSequences, hnone, ih fun hmem => h (List.mem_cons_of_mem c hmem)]

/-- A text without escape characters is shown as it is. -/
theorem plain_eq_self {s : String} (h : '\x1b' ∉ s.toList) : plain s = s := by
  rw [plain, dropSequences_eq_self h, String.ofList_toList]

end Command.Display

/-! ## Lines -/

namespace JsonLine

/-- The text is one line for each of the field values, in their order, and each line reads as its
field values. -/
def Tells (text : String) (found : List FieldValues) : Prop :=
  ∃ lines : List (List Char), text.toList = lines.flatMap (· ++ ['\n']) ∧ (∀ l ∈ lines, '\n' ∉ l) ∧
    List.Forall₂ (fun l values => read l = some values) lines found

theorem tells_lines {found : List FieldValues} (h : ∀ values ∈ found, values.names.Nodup) :
    Tells (lines found) found := by
  refine ⟨found.map object, ?_, ?_, ?_⟩
  · rw [lines, String.toList_ofList, List.flatMap_map]
  · intro l hl
    obtain ⟨values, -, rfl⟩ := List.mem_map.1 hl
    intro hmem
    exact absurd (isPlain_object values _ hmem).1 (by decide)
  · rw [List.forall₂_map_left_iff, List.forall₂_same]
    exact fun values hvalues => read_object (h values hvalues)

theorem escape_notMem_lines (found : List FieldValues) : '\x1b' ∉ (lines found).toList := by
  rw [lines, String.toList_ofList]
  intro hmem
  obtain ⟨values, -, hvalues⟩ := List.mem_flatMap.1 hmem
  rcases List.mem_append.1 hvalues with hobject | hend
  · exact absurd (isPlain_object values _ hobject).1 (by decide)
  · exact absurd (List.mem_singleton.1 hend) (by decide)

end JsonLine

/-! ## What a matcher finds -/

namespace Matcher

variable {m : Type → Type}

/-- The field values to print of a text: of all occurrences under the global option, else of the
first one if there is one. -/
def valuesIn (x : Matcher m) (s : String) : Except Error (List FieldValues) :=
  if x.options.global.truthy then x.allValues (.str s)
  else (x.firstValues (.str s)).map Option.toList

/-- What matching a text gives, for all occurrences or as a list of at most one. -/
def results (x : Matcher Id) (global : Bool) (s : String) : Except Error (List FieldValues) :=
  if global then (x.matchAll (.str s)).report.1
  else (x.matchFirst (.str s)).report.1.map Option.toList

/-- Everything that is printed is the field values of an occurrence. -/
theorem exists_valuesAt_of_valuesIn {x : Matcher m} {s : String} {found : List FieldValues}
    (h : x.valuesIn s = .ok found) : ∀ values ∈ found, ∃ o, x.valuesAt o = .ok values := by
  rw [valuesIn] at h
  split at h
  · exact exists_eq_ok_of_mapM h
  · obtain ⟨first, hfirst, rfl⟩ := map_eq_ok_iff.1 h
    rw [firstValues_str] at hfirst
    split at hfirst
    · cases hfirst
      nofun
    · next o _ =>
      obtain ⟨values, hvalues, rfl⟩ := map_eq_ok_iff.1 hfirst
      intro values' hmem
      obtain rfl := List.mem_singleton.1 hmem
      exact ⟨o, hvalues⟩

theorem nodup_of_valuesIn {x : Matcher m} {s : String} {found : List FieldValues}
    (h : x.valuesIn s = .ok found) : ∀ values ∈ found, values.names.Nodup := by
  intro values hvalues
  obtain ⟨o, ho⟩ := exists_valuesAt_of_valuesIn h values hvalues
  exact FieldValues.nodup_ofCaptures ho

theorem exists_digitLimit_of_valuesIn {x : Matcher m} {s : String} {e : Error}
    (h : x.valuesIn s = .error e) : ∃ n, digitLimit < n ∧ e = .digitLimit n := by
  have houtcome : x.outcome (.run (.str s)) = .error e := by
    rw [valuesIn] at h
    rw [outcome]
    split at h
    · next hglobal => rw [if_pos hglobal, h, Except.map]
    · next hglobal => rw [if_neg hglobal, eq_error_of_map h, Except.map]
  exact (exists_digitLimit_of_outcome (Or.inl houtcome)).2

theorem results_eq_valuesIn {x : Matcher Id} (hx : x.IsStandard) (s : String) :
    x.results x.options.global.truthy s = x.valuesIn s := by
  obtain ⟨records, hall⟩ := matchAll_ends hx (.str s)
  have hfirst := matchFirst_ends hx (.str s)
  rw [results, valuesIn, hall.report, hfirst.report]
  rfl

end Matcher

namespace Command

/-! ## Outcomes -/

/-- The outcome tells what was found: nothing is printed if it cannot be had, which only a numeral
that is too long brings about; if there is nothing, nothing is printed and the exit code is one; else
all of it is printed and the exit code is zero. -/
structure Outcome.Tells (o : Outcome) (found : Except Error (List FieldValues)) : Prop where
  of_error : ∀ e, found = .error e →
    o.stdout = "" ∧ o.error = some e ∧ ∃ n, digitLimit < n ∧ e = .digitLimit n
  of_nil : found = .ok [] → o.stdout = "" ∧ o.error = none ∧ o.exit = 1
  of_ne_nil : ∀ values, found = .ok values → values ≠ [] →
    JsonLine.Tells o.stdout values ∧ o.error = none ∧ o.exit = 0

theorem Outcome.tells_ofAction (view : LogView) (log : Log)
    {found : Except Error (List FieldValues)}
    (hnames : ∀ values, found = .ok values → ∀ v ∈ values, v.names.Nodup)
    (herror : ∀ e, found = .error e → ∃ n, digitLimit < n ∧ e = .digitLimit n) :
    (Outcome.ofAction view (found.map reportOccurrences, log)).Tells found := by
  cases found with
  | error e =>
    obtain ⟨n, hlong, rfl⟩ := herror e rfl
    refine ⟨?_, nofun, nofun⟩
    rintro _ ⟨⟩
    exact ⟨rfl, rfl, n, hlong, rfl⟩
  | ok values =>
    refine ⟨nofun, ?_, ?_⟩
    · rintro ⟨⟩
      exact ⟨rfl, rfl, rfl⟩
    · rintro _ ⟨⟩ hne
      cases values with
      | nil => exact absurd rfl hne
      | cons v vs =>
        have hplain : Display.plain (JsonLine.lines (v :: vs)) = JsonLine.lines (v :: vs) :=
          Display.plain_eq_self (JsonLine.escape_notMem_lines _)
        have htells := JsonLine.tells_lines (hnames _ rfl)
        rw [← hplain] at htells
        exact ⟨htells, rfl, rfl⟩

/-! ## Runs -/

section Run

variable {m : Type → Type} [Monad m]

/-- The run gets a text from `source`, and its outcome tells what is found in this text. -/
def Shows (run : m Outcome) (source : m String)
    (found : String → Except Error (List FieldValues)) : Prop :=
  ∃ outcome : String → Outcome,
    run = (source >>= fun s => pure (outcome s)) ∧ ∀ s, (outcome s).Tells (found s)

variable [LawfulMonad m]

theorem occurrences_ends {x : Matcher m} (hx : x.IsStandard) (s : String) :
    ∃ records, (occurrences x s).Ends (x.valuesIn s) records := by
  rw [occurrences, Matcher.valuesIn]
  split
  · exact Matcher.matchAll_ends hx (.str s)
  · exact ⟨[], (Matcher.matchFirst_ends hx (.str s)).map Option.toList⟩

/-- Printing the occurrences asks for the text to match. -/
theorem reportOccurrences_asks {x : Matcher m} (hx : x.IsStandard) (h : Host m)
    (text : Option String) :
    ∃ records, (do
        let s ← subjectText h text
        let found ← occurrences x s
        return reportOccurrences found : Action m Report).Asks (text.elim h.input pure)
      (fun s => (x.valuesIn s).map reportOccurrences) records := by
  choose records hrecords using occurrences_ends hx
  refine ⟨records, ?_⟩
  cases text with
  | none => exact Asks.perform fun s => (hrecords s).map reportOccurrences
  | some s =>
    intro log
    rw [subjectText, pure_bind, Option.elim_some, pure_bind]
    exact (hrecords s).map reportOccurrences log

omit [LawfulMonad m] in
/-- A matcher finds the same in every monad. -/
theorem exists_prepared_valuesIn {expression options : Value} {x : Matcher Id}
    (hx : Matcher.prepared expression options = .ok x) :
    ∃ y : Matcher m, Matcher.prepared expression options = .ok y ∧ y.valuesIn = x.valuesIn := by
  obtain ⟨settled, text, left, right, hoptions, htexts, rfl⟩ := Matcher.prepared_eq_ok_iff.1 hx
  exact ⟨Matcher.ofTexts settled text left right,
    Matcher.prepared_eq_ok_iff.2 ⟨settled, text, left, right, hoptions, htexts, rfl⟩, rfl⟩

/-- So does a command that prepares a matcher and prints what it finds. -/
theorem create_asks {expression options : Value} {x : Matcher Id}
    (hx : Matcher.prepared expression options = .ok x) (h : Host m) (text : Option String) :
    ∃ records, (do
        let y : Matcher m ← Matcher.create none expression options
        let s ← subjectText h text
        let found ← occurrences y s
        return reportOccurrences found : Action m Report).Asks (text.elim h.input pure)
      (fun s => (x.valuesIn s).map reportOccurrences) records := by
  obtain ⟨y, hy, hvalues⟩ := exists_prepared_valuesIn (m := m) hx
  obtain ⟨before, hcreate⟩ := Matcher.create_ends (m := m) expression options
  obtain ⟨records, hasks⟩ := reportOccurrences_asks (Matcher.isStandard_of_prepared hy) h text
  rw [hy] at hcreate
  rw [hvalues] at hasks
  exact ⟨_, Asks.after hcreate hasks⟩

theorem shows_of_asks {a : Action m Report} {source : m String} {x : Matcher Id}
    (hx : x.IsStandard) {records : String → Log}
    (h : a.Asks source (fun s => (x.valuesIn s).map reportOccurrences) records) (view : LogView) :
    Shows (do return .ofAction view (← a.report)) source (x.results x.options.global.truthy) := by
  refine ⟨fun s => .ofAction view ((x.valuesIn s).map reportOccurrences, records s), ?_, ?_⟩
  · rw [h.report]
    simp only [bind_assoc, pure_bind]
  · intro s
    rw [Matcher.results_eq_valuesIn hx]
    exact Outcome.tells_ofAction view _ (fun _ => Matcher.nodup_of_valuesIn)
      fun _ => Matcher.exists_digitLimit_of_valuesIn

end Run

/-! ## Matchers of the commands -/

theorem exists_resolve_markersValue (markers : Option String) :
    ∃ left right, Markers.resolve (markersValue markers) = .ok (.ofTexts left right) := by
  cases markers with
  | none => exact ⟨"", "", rfl⟩
  | some s =>
    rw [markersValue, Markers.resolve]
    split
    · exact ⟨"", "", rfl⟩
    · exact ⟨_, _, rfl⟩

/-- The match command always has a matcher, and it has the global option of the command. -/
theorem exists_prepared_searchOptions (expression : String) (markers : Option String)
    (global strict weak : Bool) :
    ∃ x : Matcher Id,
      Matcher.prepared (.str expression) (searchOptions markers global strict weak) = .ok x ∧
        x.options.global.truthy = global := by
  obtain ⟨left, right, hmarkers⟩ := exists_resolve_markersValue markers
  have hoptions : Options.resolve (searchOptions markers global strict weak) =
      .ok ⟨.bool global, .ofTexts left right, .bool strict, .bool weak⟩ := by
    have hresolve : Options.resolve (searchOptions markers global strict weak) =
        (do
          let markers ← Markers.resolve (markersValue markers)
          return ⟨.bool global, markers, .bool strict, .bool weak⟩) := by
      cases markers <;> rfl
    rw [hresolve, hmarkers]
    rfl
  exact ⟨Matcher.ofTexts _ expression left.toList right.toList,
    Matcher.prepared_eq_ok_iff.2 ⟨_, _, _, _, hoptions, rfl, rfl⟩, rfl⟩

/-- A matcher that a library builds is prepared from a definition. -/
theorem exists_prepared_of_build {l : Library} {name : String} {x : Matcher Id} {log : Log}
    (h : (l.build name : Action Id (Matcher Id)).report = (.ok x, log)) :
    ∃ d, l.get? name = some d ∧ Matcher.prepared (.str d.expression) d.options.toValue = .ok x := by
  rw [Library.build] at h
  cases hget : l.get? name with
  | none =>
    rw [hget] at h
    cases h
  | some d =>
    rw [hget] at h
    exact ⟨d, rfl, Matcher.create_report_eq_ok_iff.1 ⟨log, h⟩⟩

/-! ## The library file -/

section LibraryFile

variable {m : Type → Type} [Monad m]

/-- The host with this file wherever one looks. -/
def Host.serving (h : Host m) (file : FileState) : Host m :=
  { h with file := fun _ => pure file }

variable [LawfulMonad m]

/-- A command on a library reads the file at its path once, at first. -/
theorem runInvocation_run_eq_serving (h : Host m) (view : LogView) (name : String)
    (text path : Option String) :
    runInvocation h view (.ok (.run name text path)) = (do
      let file ← h.file ((path.map Path.normal).getD h.settings.libraryPath)
      runInvocation (h.serving file) view (.ok (.run name text path))) := by
  -- what the command does with the file is the same on both hosts
  obtain ⟨use, hrun, hserving⟩ : ∃ use : FileState → Action m Report,
      perform h h.settings (.run name text path) = Action.perform
          (h.file ((path.map Path.normal).getD h.settings.libraryPath)) >>= use ∧
        ∀ file, perform (h.serving file) h.settings (.run name text path) =
          Action.perform (pure file) >>= use :=
    ⟨_, rfl, fun _ => rfl⟩
  have hsettings : ∀ file, (h.serving file).settings = h.settings := fun _ => rfl
  simp only [runInvocation, hsettings, hrun, hserving, Action.report_perform_bind, bind_assoc,
    pure_bind]

theorem run_asks {name : String} {path : Option String} {file : FileState} {loading : Loading}
    {x : Matcher Id} {log : Log} (h : Host m) (text : Option String)
    (hpresent : file.present = true)
    (hloading : loading = (Library.empty
      ((path.map Path.normal).getD h.settings.libraryPath)).loadWith h.parse file)
    (houtcome : loading.outcome = .ok ())
    (hbuild : (loading.library.build name : Action Id (Matcher Id)).report = (.ok x, log)) :
    ∃ records, (perform (h.serving file) h.settings (.run name text path)).Asks
      (text.elim h.input pure) (fun s => (x.valuesIn s).map reportOccurrences) records := by
  have hfile : (Action.perform (pure file) : Action m FileState).Ends (.ok file) [] :=
    Ends.perform rfl
  have hloaded : (MonadExcept.ofExcept loading.outcome : Action m Unit).Ends (.ok ()) [] := by
    rw [houtcome]
    exact Ends.ofExcept _
  obtain ⟨d, hget, hx⟩ := exists_prepared_of_build hbuild
  have hprinting : ∃ records, (do
      let y : Matcher m ← loading.library.build name
      let s ← subjectText h text
      let found ← occurrences y s
      return reportOccurrences found : Action m Report).Asks (text.elim h.input pure)
        (fun s => (x.valuesIn s).map reportOccurrences) records := by
    rw [Library.build, hget]
    exact create_asks hx h text
  obtain ⟨records, hasks⟩ := hprinting
  have hpassed : ¬ (!file.present) = true := by
    rw [hpresent]
    exact Bool.false_ne_true
  refine ⟨fun s => [] ++ (loading.log ++ ([] ++ records s)), Asks.after hfile ?_⟩
  rw [if_neg hpassed]
  subst hloading
  exact Asks.after (Ends.recordAll _) (Asks.after hloaded hasks)

end LibraryFile

end Command

open Command

end FieldPattern
