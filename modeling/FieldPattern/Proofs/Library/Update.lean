import FieldPattern.Proofs.Library.Loading
import Mathlib.Algebra.Group.Nat.Defs
import Mathlib.Data.List.Forall2

/-!
# What one load changes

A load goes through the entries of a document and sets one definition after another, until an entry
is rejected. What it leaves is said here without the loop (`merged`): every definition that was there
keeps its position and gives way to the last new one of its name, if there is one; behind them stand
the new names, each at the place of its first entry and with what its last entry defines. Nothing
else changes, and the definitions of entries before a rejected one stay.

From this form it is plain that a load of the same file changes nothing a second time: every new name
has its position, and what stands there is already the last definition of that name
(`merged_merged`).

An entry is rejected also for its key, if this has no text. An integer of too many digits is such a
key, and the entry under it may be as good as any other (`loadFrom_overlong_key`).
-/

namespace FieldPattern

namespace Library

/-! ## Setting many definitions -/

/-- The last of the definitions that go under a name. -/
def lastNamed (ds : List (String × Definition)) (name : String) : Option Definition :=
  (ds.reverse.find? (·.1 == name)).map (·.2)

/-- The names of the definitions that a library does not have, in the order of their first
definitions. -/
def newNames (l : Library) (ds : List (String × Definition)) : List String :=
  ((ds.map (·.1)).filter (· ∉ l.names)).eraseDups

/-- The table of a library with further definitions. -/
def merged (l : Library) (ds : List (String × Definition)) : List (String × Definition) :=
  (l.table.map fun e => (e.1, (lastNamed ds e.1).getD e.2)) ++
    (l.newNames ds).filterMap fun name => (lastNamed ds name).map (name, ·)

section Merge

variable {l : Library} {name : String} {d : Definition} {ds : List (String × Definition)}

theorem lastNamed_cons (e : String × Definition) (ds : List (String × Definition))
    (name : String) : lastNamed (e :: ds) name =
      (lastNamed ds name).or (if e.1 = name then some e.2 else none) := by
  rw [lastNamed, List.reverse_cons, List.find?_append, Option.map_or, lastNamed,
    List.find?_singleton]
  by_cases he : e.1 = name <;> simp [he]

theorem lastNamed_cons_of_ne {name' : String} (h : name ≠ name') :
    lastNamed ((name, d) :: ds) name' = lastNamed ds name' := by
  rw [lastNamed_cons, if_neg h, Option.or_none]

theorem lastNamed_cons_self :
    lastNamed ((name, d) :: ds) name = some ((lastNamed ds name).getD d) := by
  rw [lastNamed_cons, if_pos rfl]
  cases lastNamed ds name <;> rfl

theorem lastNamed_eq_none_iff : lastNamed ds name = none ↔ name ∉ ds.map (·.1) := by
  rw [lastNamed, Option.map_eq_none_iff, find?_key_eq_none_iff, List.map_reverse, List.mem_reverse]

theorem mem_newNames_iff : name ∈ l.newNames ds ↔ name ∈ ds.map (·.1) ∧ name ∉ l.names := by
  rw [newNames, List.mem_eraseDups, List.mem_filter, decide_eq_true_iff]

/-- A definition of a name that is there goes to its place, and what comes later is not seen from
before. -/
theorem merged_put_of_mem (h : name ∈ l.names) :
    (l.put name d).merged ds = l.merged ((name, d) :: ds) := by
  have htable : (l.put name d).table =
      l.table.map fun e => if e.1 == name then (name, d) else e := by
    rw [put, if_pos h]
  have hnew : (l.put name d).newNames ds = l.newNames ((name, d) :: ds) := by
    rw [newNames, newNames, names_put, if_pos h, List.map_cons, List.filter_cons_of_neg (by simpa)]
  rw [merged, merged, hnew, htable, List.map_map]
  congr 1
  · apply List.map_congr_left
    intro e _
    by_cases he : e.1 = name
    · simp [he, lastNamed_cons_self]
    · simp [he, lastNamed_cons_of_ne (Ne.symm he)]
  · apply List.filterMap_congr
    intro name' hname
    have hne : name ≠ name' := by
      rintro rfl
      exact (mem_newNames_iff.1 hname).2 h
    rw [lastNamed_cons_of_ne hne]

/-- A definition of a new name goes behind all others, where later ones of its name overwrite it. -/
theorem merged_put_of_not_mem (h : name ∉ l.names) :
    (l.put name d).merged ds = l.merged ((name, d) :: ds) := by
  have htable : (l.put name d).table = l.table ++ [(name, d)] := by
    rw [put, if_neg h]
  have hnew : l.newNames ((name, d) :: ds) = name :: (l.put name d).newNames ds := by
    rw [newNames, newNames, names_put, if_neg h, List.map_cons, List.filter_cons_of_pos (by simpa),
      List.eraseDups_cons, List.filter_filter]
    congr 3
    funext name'
    by_cases hname : name' = name <;> simp [hname]
  rw [merged, merged, hnew, htable, List.map_append, List.filterMap_cons, lastNamed_cons_self,
    List.append_assoc]
  congr 1
  · apply List.map_congr_left
    intro e he
    have hne : name ≠ e.1 := by
      rintro rfl
      exact h (List.mem_map_of_mem he)
    rw [lastNamed_cons_of_ne hne]
  · rw [List.map_singleton, List.singleton_append]
    congr 1
    apply List.filterMap_congr
    intro name' hname
    have hne : name ≠ name' := by
      rintro rfl
      apply (mem_newNames_iff.1 hname).2
      rw [names_put, if_neg h]
      exact List.mem_append_right _ List.mem_cons_self
    rw [lastNamed_cons_of_ne hne]

theorem merged_put (l : Library) (name : String) (d : Definition)
    (ds : List (String × Definition)) :
    (l.put name d).merged ds = l.merged ((name, d) :: ds) := by
  by_cases h : name ∈ l.names
  · exact merged_put_of_mem h
  · exact merged_put_of_not_mem h

theorem merged_nil (l : Library) : l.merged [] = l.table := by
  simp [merged, lastNamed, newNames]

/-- Setting definitions one after another merges them. -/
theorem foldl_put (l : Library) (ds : List (String × Definition)) :
    ds.foldl (fun l e => l.put e.1 e.2) l = { l with table := l.merged ds } := by
  induction ds generalizing l with
  | nil => rw [List.foldl_nil, merged_nil]
  | cons e ds ih => rw [List.foldl_cons, ih, merged_put, path_put]

/-- The names that were there come first, in their order, and then the new ones. -/
theorem names_merged (l : Library) (ds : List (String × Definition)) :
    (l.merged ds).map (·.1) = l.names ++ l.newNames ds := by
  rw [merged, List.map_append, List.map_map, List.map_filterMap]
  congr 1
  have hnamed : ∀ name ∈ l.newNames ds,
      ((lastNamed ds name).map (name, ·)).map (·.1) = some name := by
    intro name hname
    cases hlast : lastNamed ds name with
    | none => exact absurd (mem_newNames_iff.1 hname).1 (lastNamed_eq_none_iff.1 hlast)
    | some d => rfl
  rw [List.filterMap_congr hnamed, List.filterMap_some]

/-- Merging the same definitions once more changes nothing. -/
theorem merged_merged (l : Library) (ds : List (String × Definition)) :
    merged { l with table := l.merged ds } ds = l.merged ds := by
  have hfixed : ∀ e ∈ l.merged ds, (e.1, (lastNamed ds e.1).getD e.2) = e := by
    intro e he
    rcases List.mem_append.1 he with he | he
    · obtain ⟨e, -, rfl⟩ := List.mem_map.1 he
      cases lastNamed ds e.1 <;> rfl
    · obtain ⟨name, -, hlast⟩ := List.mem_filterMap.1 he
      obtain ⟨d, hd, rfl⟩ := Option.map_eq_some_iff.1 hlast
      rw [hd]
      rfl
  have hthere : newNames { l with table := l.merged ds } ds = [] := by
    rw [List.eq_nil_iff_forall_not_mem]
    intro name hname
    obtain ⟨hdefined, hfresh⟩ := mem_newNames_iff.1 hname
    apply hfresh
    rw [names, names_merged, List.mem_append]
    by_cases hold : name ∈ l.names
    · exact Or.inl hold
    · exact Or.inr (mem_newNames_iff.2 ⟨hdefined, hold⟩)
  rw [merged, hthere, List.filterMap_nil, List.append_nil]
  show (l.merged ds).map _ = _
  conv_rhs => rw [← List.map_id (l.merged ds)]
  exact List.map_congr_left hfixed

end Merge

/-! ## The entries of a document -/

/-- The entry is accepted: its key has a text, and this is what it defines under it. -/
def Defines (e : Value × Value) (d : String × Definition) : Prop :=
  e.1.text = some d.1 ∧ d.2.IsOf d.1 e.2

/-- What the entries before the first one that is rejected define, under the texts of their keys. -/
def definitions (path : String) : List (Value × Value) → List (String × Definition)
  | [] => []
  | (key, entry) :: rest =>
    match (Id.run (readKeyed path key entry).report).1 with
    | .ok d => d :: definitions path rest
    | .error _ => []

section Entries

variable {l l' : Library} {path : String} {entries : List (Value × Value)}

theorem library_addEntries (l : Library) (entries : List (Value × Value)) :
    (l.addEntries entries).library =
      (definitions l.path entries).foldl (fun l e => l.put e.1 e.2) l := by
  induction entries generalizing l with
  | nil => rfl
  | cons e rest ih =>
    obtain ⟨key, entry⟩ := e
    rw [addEntries, definitions]
    rcases hreport : Id.run (readKeyed l.path key entry).report with ⟨e | d, log⟩
    · rfl
    · dsimp only
      rw [ih, path_put, List.foldl_cons]

/-- How adding entries ends does not depend on the patterns that are there. -/
theorem outcome_addEntries (h : l.path = l'.path) (entries : List (Value × Value)) :
    (l.addEntries entries).outcome = (l'.addEntries entries).outcome := by
  induction entries generalizing l l' with
  | nil => rfl
  | cons e rest ih =>
    obtain ⟨key, entry⟩ := e
    rw [addEntries, addEntries, h]
    rcases hreport : Id.run (readKeyed l'.path key entry).report with ⟨e | d, log⟩
    · rfl
    · exact ih (by rw [path_put, path_put, h])

/-- Adding entries goes up to the first one that is rejected, and ends with the error of that
entry. -/
theorem addEntries_stops (l : Library) (entries : List (Value × Value)) :
    ∃ before rest, entries = before ++ rest ∧
      List.Forall₂ Defines before (definitions l.path entries) ∧
        ((rest = [] ∧ (l.addEntries entries).outcome = .ok ()) ∨
          ∃ e more error, rest = e :: more ∧ (∀ d, ¬ Defines e d) ∧
            (l.addEntries entries).outcome = .error error) := by
  induction entries generalizing l with
  | nil => exact ⟨[], [], rfl, .nil, Or.inl ⟨rfl, rfl⟩⟩
  | cons e rest ih =>
    obtain ⟨key, entry⟩ := e
    rw [addEntries, definitions]
    rcases hreport : Id.run (readKeyed l.path key entry).report with ⟨error | d, log⟩
    · refine ⟨[], (key, entry) :: rest, rfl, .nil, Or.inr ⟨_, rest, error, rfl, ?_, rfl⟩⟩
      intro d hd
      obtain ⟨log', hok⟩ := readKeyed_report_eq_ok_iff.2 hd
      cases hok.symm.trans hreport
    · have hd : Defines (key, entry) d := readKeyed_report_eq_ok_iff.1 ⟨log, hreport⟩
      obtain ⟨before, more, hsplit, hbefore, hstop⟩ := ih (l.put d.1 d.2)
      rw [path_put] at hbefore
      refine ⟨(key, entry) :: before, more, by rw [hsplit, List.cons_append], ?_, hstop⟩
      exact .cons hd hbefore

end Entries

/-- The value is a mapping whose `patterns` are these entries; without `patterns` there are none. -/
def HasPatterns (data : Value) (entries : List (Value × Value)) : Prop :=
  ∃ fields, data.expose = .map fields ∧
    ((Value.lookup? fields "patterns" = none ∧ entries = []) ∨
      ∃ v, Value.lookup? fields "patterns" = some v ∧ v.expose = .map entries)

theorem entriesOf?_eq_some_iff {data : Value} {entries : List (Value × Value)} :
    entriesOf? data = some entries ↔ HasPatterns data entries := by
  rw [entriesOf?]
  constructor
  · intro h
    split at h
    · next fields hfields =>
      refine ⟨fields, hfields, ?_⟩
      split at h
      · next found hfound =>
        obtain ⟨v, hv, hexpose⟩ := Option.map_eq_some_iff.1 hfound
        exact Or.inr ⟨v, hv, hexpose.trans (congrArg Value.map (Option.some.inj h))⟩
      · cases h
      · next hnone =>
        exact Or.inl ⟨Option.map_eq_none_iff.1 hnone, (Option.some.inj h).symm⟩
    · cases h
  · rintro ⟨fields, hfields, ⟨hnone, rfl⟩ | ⟨v, hv, hentries⟩⟩
    · simp [hfields, hnone]
    · simp [hfields, hv, hentries]

/-! ## One load -/

section Load

variable {l : Library} {data : Value} {entries : List (Value × Value)}

theorem update_of_not_truthy (h : data.truthy = false) : l.update data = ⟨l, [], .ok ()⟩ := by
  rw [update, h]
  rfl

theorem update_of_not_hasPatterns (htruthy : data.truthy = true)
    (h : ∀ entries, ¬ HasPatterns data entries) :
    l.update data = ⟨l, [], .error (.noPatterns l.path)⟩ := by
  have hnone : entriesOf? data = none := by
    cases hentries : entriesOf? data with
    | none => rfl
    | some entries => exact absurd (entriesOf?_eq_some_iff.1 hentries) (h entries)
  rw [update, htruthy, hnone]
  rfl

theorem library_update_of_hasPatterns (htruthy : data.truthy = true)
    (h : HasPatterns data entries) :
    (l.update data).library = { l with table := l.merged (definitions l.path entries) } := by
  rw [library_update, if_pos htruthy, entriesOf?_eq_some_iff.2 h, Option.getD_some,
    library_addEntries, foldl_put]

theorem outcome_update_of_hasPatterns (htruthy : data.truthy = true)
    (h : HasPatterns data entries) :
    (l.update data).outcome = (l.addEntries entries).outcome := by
  rw [update, htruthy, entriesOf?_eq_some_iff.2 h]
  dsimp only
  cases houtcome : (l.addEntries entries).outcome with
  | ok => rfl
  | error e => exact houtcome

/-- With the patterns of the same document, a second update ends as the first one did, and changes
nothing. -/
theorem update_update (l : Library) (data : Value) :
    ((l.update data).library.update data).library = (l.update data).library ∧
      ((l.update data).library.update data).outcome = (l.update data).outcome := by
  cases htruthy : data.truthy with
  | false => simp only [update_of_not_truthy htruthy, and_self]
  | true =>
    by_cases h : ∃ entries, HasPatterns data entries
    · obtain ⟨entries, h⟩ := h
      simp only [library_update_of_hasPatterns htruthy h, outcome_update_of_hasPatterns htruthy h,
        merged_merged, true_and]
      have hpath : path ⟨l.path, l.merged (definitions l.path entries)⟩ = l.path := rfl
      exact outcome_addEntries hpath entries
    · have hnone := not_exists.1 h
      simp only [update_of_not_hasPatterns htruthy hnone, and_self]

theorem path_update (l : Library) (data : Value) : (l.update data).library.path = l.path := by
  rw [library_update]
  split
  · rw [library_addEntries, foldl_put]
  · rfl

variable {parse : Text.Feed → Except Document.Fault Value}

theorem loadWith_of_readFile {file : FileState} (h : readFile parse l.path file = .ok data) :
    l.loadWith parse file = l.update data := by
  have hpresent : file.present = true := by
    cases file with
    | absent => cases h
    | _ => rfl
  rw [loadWith, loadFrom, hpresent, h]
  rfl

/-- A file that is missing, or that gives no value, changes nothing. -/
theorem loadWith_of_unread {file : FileState} (h : ∀ data, readFile parse l.path file ≠ .ok data) :
    (l.loadWith parse file).library = l := by
  rw [loadWith, loadFrom]
  split
  · rfl
  · cases hread : readFile parse l.path file with
    | error e => rfl
    | ok data => exact absurd hread (h data)

end Load

/-! ## Keys without a text -/

/-- An integer of too many digits has no text. -/
theorem text_int_eq_none {n : Nat} (h : 10 ^ digitLimit ≤ n) : (Value.int n).text = none := by
  have hlong : digitLimit < (Nat.toDigits 10 (n : Int).natAbs).length := by
    rw [← Nat.not_le, Nat.length_toDigits_le_iff (by decide) (by decide), Int.natAbs_natCast]
    exact Nat.not_lt.2 h
  show integerText? n = none
  rw [integerText?]
  exact if_pos hlong

/-- A key without a text stops a load, whatever is under it. -/
theorem outcome_update_of_text_eq_none {l : Library} {data key entry : Value}
    {rest : List (Value × Value)} (htruthy : data.truthy = true)
    (h : HasPatterns data ((key, entry) :: rest)) (hkey : key.text = none) :
    (l.update data).outcome = .error .unwritableNumber := by
  rw [outcome_update_of_hasPatterns htruthy h, addEntries, readKeyed, hkey]
  rfl

end Library

open Library

/-- A load stops at a key of too many digits, though the entry under it is rejected under no name. -/
theorem loadFrom_overlong_key :
    (∀ name, ∃ d log, (readEntry "p" name (.map [(.str "expression", .str "x")])).report =
        (.ok d, log)) ∧
      ((Library.empty "p").loadFrom (fun _ => .ok (.map [(.str "patterns",
        .map [(.int (10 ^ digitLimit : Nat), .map [(.str "expression", .str "x")])])]))
          (.file ⟨#[]⟩)).outcome = .error .unwritableNumber := by
  constructor
  · intro name
    exact ⟨⟨name, "x", .null, .default⟩,
      readEntry_report_eq_ok_iff.2 ⟨rfl, ⟨_, rfl, rfl, rfl⟩, rfl⟩⟩
  · have hkey : (Value.int (10 ^ digitLimit : Nat)).text = none :=
      text_int_eq_none (Nat.le_refl (10 ^ digitLimit))
    generalize Value.int (10 ^ digitLimit : Nat) = key at hkey ⊢
    have hentries : HasPatterns
        (.map [(.str "patterns", .map [(key, .map [(.str "expression", .str "x")])])])
        [(key, .map [(.str "expression", .str "x")])] :=
      ⟨_, rfl, Or.inr ⟨_, rfl, rfl⟩⟩
    exact outcome_update_of_text_eq_none rfl hentries hkey

/-- What a load leaves, whichever parser reads the documents. A missing file and an empty document
change nothing, and neither does a file that cannot be read, or a document without a mapping of
patterns; these end with errors. Otherwise the definitions of the entries before the first one that
is rejected are merged into the library, and the load ends with an error exactly if there is such an
entry. A second load of the same file ends as the first one did and leaves everything as it is, in
the same order. -/
theorem load_merges (parse : Text.Feed → Except Document.Fault Value) (l : Library)
    (file : FileState) :
    (file.present = false →
        (l.loadWith parse file).library = l ∧ (l.loadWith parse file).outcome = .ok ()) ∧
      (∀ feed, file.read l.path = .ok feed → parse feed = .error .malformed →
        readFile parse l.path file = .error (.unreadable l.path)) ∧
      (∀ e, file.present = true → readFile parse l.path file = .error e →
        (l.loadWith parse file).library = l ∧ (l.loadWith parse file).outcome = .error e) ∧
      (∀ data, readFile parse l.path file = .ok data →
        (data.truthy = false →
          (l.loadWith parse file).library = l ∧ (l.loadWith parse file).outcome = .ok ()) ∧
        (data.truthy = true → (∀ entries, ¬ HasPatterns data entries) →
          (l.loadWith parse file).library = l ∧
            (l.loadWith parse file).outcome = .error (.noPatterns l.path)) ∧
        ∀ entries, data.truthy = true → HasPatterns data entries →
          ∃ before rest ds, entries = before ++ rest ∧ List.Forall₂ Defines before ds ∧
            (l.loadWith parse file).library = { l with table := l.merged ds } ∧
            (l.loadWith parse file).library.names = l.names ++ l.newNames ds ∧
            ((rest = [] ∧ (l.loadWith parse file).outcome = .ok ()) ∨
              ∃ e more error, rest = e :: more ∧ (∀ d, ¬ Defines e d) ∧
                (l.loadWith parse file).outcome = .error error)) ∧
      ((l.loadWith parse file).library.loadWith parse file).library =
        (l.loadWith parse file).library ∧
      ((l.loadWith parse file).library.loadWith parse file).outcome =
        (l.loadWith parse file).outcome := by
  refine ⟨?_, ?_, ?_, ?_, ?_⟩
  · intro habsent
    rw [loadWith, loadFrom, habsent]
    exact ⟨rfl, rfl⟩
  · intro feed hfeed hmalformed
    rw [readFile, hfeed]
    change pure feed >>= _ = _
    rw [pure_bind, hmalformed]
    rfl
  · intro e hpresent herror
    rw [loadWith, loadFrom, hpresent, herror]
    exact ⟨rfl, rfl⟩
  · intro data hdata
    rw [loadWith_of_readFile hdata]
    refine ⟨fun hfalsy => ?_, fun htruthy hnone => ?_, fun entries htruthy hentries => ?_⟩
    · rw [update_of_not_truthy hfalsy]
      exact ⟨rfl, rfl⟩
    · rw [update_of_not_hasPatterns htruthy hnone]
      exact ⟨rfl, rfl⟩
    · obtain ⟨before, rest, hsplit, hbefore, hstop⟩ := addEntries_stops l entries
      rw [library_update_of_hasPatterns htruthy hentries,
        outcome_update_of_hasPatterns htruthy hentries]
      exact ⟨before, rest, _, hsplit, hbefore, rfl, names_merged l _, hstop⟩
  · cases hread : readFile parse l.path file with
    | ok data =>
      have hsecond : readFile parse (l.update data).library.path file = .ok data := by
        rw [path_update, hread]
      rw [loadWith_of_readFile hread, loadWith_of_readFile hsecond]
      exact update_update l data
    | error e =>
      have hunread : ∀ data, readFile parse l.path file ≠ .ok data := by
        intro data hdata
        rw [hread] at hdata
        cases hdata
      have hsame : (l.loadWith parse file).library = l := loadWith_of_unread hunread
      rw [hsame]
      exact ⟨hsame, rfl⟩

/-- Of two keys with the same text the second one decides; the name was there and keeps its place, and
the entry behind a rejected one is not looked at. -/
theorem load_merges_same_text :
    ∃ (l : Library) (data : Value) (entries before rest : List (Value × Value))
        (ds : List (String × Definition)),
      l = ⟨"p", [("1", ⟨"1", "u", .null, .default⟩), ("b", ⟨"b", "v", .null, .default⟩)]⟩ ∧
        readFile Document.ofFeed l.path (.file ("patterns:\n 1: {expression: x}\n" ++
          " c: {expression: y}\n '1': {expression: z}\n d: 0\n b: {expression: t}").toUTF8) =
            .ok data ∧
        data.truthy = true ∧ HasPatterns data entries ∧ entries = before ++ rest ∧ rest ≠ [] ∧
        List.Forall₂ Defines before ds ∧
        (l.merged ds).map (fun e => (e.1, e.2.expression)) =
          [("1", "z"), ("b", "v"), ("c", "y")] := by
  let l : Library :=
    ⟨"p", [("1", ⟨"1", "u", .null, .default⟩), ("b", ⟨"b", "v", .null, .default⟩)]⟩
  let file : FileState := .file ("patterns:\n 1: {expression: x}\n" ++
    " c: {expression: y}\n '1': {expression: z}\n d: 0\n b: {expression: t}").toUTF8
  have hread : ((readFile Document.ofFeed "p" file).toOption.map fun data =>
      (data.truthy, (entriesOf? data).isSome, (l.update data).outcome.isOk,
        (l.update data).library.table.map fun e => (e.1, e.2.expression))) =
          some (true, true, false, [("1", "z"), ("b", "v"), ("c", "y")]) := by
    decide +kernel
  cases hdata : readFile Document.ofFeed l.path file with
  | error e =>
    rw [show readFile Document.ofFeed "p" file = _ from hdata] at hread
    cases hread
  | ok data =>
    rw [show readFile Document.ofFeed "p" file = _ from hdata] at hread
    simp only [Except.toOption, Option.map_some, Option.some.injEq, Prod.mk.injEq] at hread
    obtain ⟨htruthy, hsome, hstops, hleft⟩ := hread
    obtain ⟨entries, hentries⟩ := Option.isSome_iff_exists.1 hsome
    have hpatterns := entriesOf?_eq_some_iff.1 hentries
    obtain ⟨before, rest, ds, hsplit, hbefore, hlibrary, -, hstop⟩ :=
      ((load_merges Document.ofFeed l file).2.2.2.1 data hdata).2.2 entries htruthy hpatterns
    rw [loadWith_of_readFile hdata] at hlibrary hstop
    rw [hlibrary] at hleft
    refine ⟨l, data, entries, before, rest, ds, rfl, hdata, htruthy, hpatterns, hsplit, ?_, hbefore,
      hleft⟩
    rintro rfl
    rcases hstop with ⟨-, hok⟩ | ⟨_, _, _, hnil, -⟩
    · rw [hok] at hstops
      cases hstops
    · cases hnil

end FieldPattern
