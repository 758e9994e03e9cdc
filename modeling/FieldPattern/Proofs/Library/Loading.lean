import FieldPattern.Library
import FieldPattern.Proofs.Document.Plain
import FieldPattern.Proofs.Matching.Preparation

/-!
# What a library holds after loads

A load goes through the entries of a document up to the first one that is rejected, and each entry
before it is *accepted* under the text of its key. Which entries these are does not depend on what
the library holds. So the state after any number of loads is told by the list of all entries
accepted so far, in order: under each name the library has what the last of them defines
(`Library.Follows`), whatever stands at the path from one load to the next, and also if loads were
stopped on the way.

What an entry defines is prepared just like the entry itself: the options were resolved when the
entry was read, and resolving them again changes nothing (`build_afterLoads`). For this the values
of the document have to be plain, which they are (`readFile_isPlain`). Nothing else is asked of the
reader of files, so it is left open here.
-/

namespace FieldPattern

open FieldPattern.Action (Ends)

/-! ## Entries -/

/-- The entry is a mapping with an expression and has options, and these make the definition. -/
structure Definition.IsOf (d : Definition) (name : String) (entry : Value) : Prop where
  name_eq : d.name = name
  fields : ∃ fields, entry.expose = .map fields ∧
    Value.lookup? fields "expression" = some (.str d.expression) ∧
      d.description = (Value.lookup? fields "description").getD .null
  options : Options.resolve entry = .ok d.options

namespace Library

theorem not_report_throw {α : Type} {e : Error} {a : α} {log : Log} :
    (throw e : Action Id α).report ≠ (.ok a, log) := by
  intro h
  cases (Ends.throw e).eq_of_report h

theorem readEntry_report_eq_ok_iff {path name : String} {entry : Value} {d : Definition} :
    (∃ log, (readEntry path name entry).report = (.ok d, log)) ↔ d.IsOf name entry := by
  have hends : ∀ make : Options → Definition,
      (do return make (← Options.resolveLogged entry) : Action Id Definition).Ends
        ((Options.resolve entry).map make) _ :=
    fun make => (Options.resolveLogged_ends entry).map make
  constructor
  · rintro ⟨log, h⟩
    rw [readEntry] at h
    split at h
    · next fields hfields =>
      split at h
      · next expression hexpression =>
        obtain ⟨v, hv, htext⟩ := Option.bind_eq_some_iff.1 hexpression
        have houtcome := congrArg Prod.fst ((hends _).eq_of_report h)
        obtain ⟨o, hresolve, rfl⟩ := map_eq_ok_iff.1 houtcome.symm
        cases v with
        | str s =>
          cases htext
          exact ⟨rfl, ⟨fields, hfields, hv, rfl⟩, hresolve⟩
        | _ => cases htext
      · exact absurd h not_report_throw
    · exact absurd h not_report_throw
  · rintro ⟨rfl, ⟨fields, hfields, hexpression, hdescription⟩, hoptions⟩
    have hreport := (hends fun o => { d with options := o }).report
    rw [hoptions] at hreport
    rw [readEntry, hfields]
    dsimp only
    rw [hexpression, ← hdescription]
    exact ⟨_, hreport⟩

theorem readKeyed_report_of_text (path : String) {name : String} {key : Value}
    (hkey : key.text = some name) (entry : Value) :
    (readKeyed path key entry).report = ((readEntry path name entry).report.1.map (name, ·),
      (readEntry path name entry).report.2) := by
  rw [readKeyed, hkey]
  exact Action.report_map _ _

/-- The entry is accepted, and this is what it defines under the text of its key. -/
theorem readKeyed_report_eq_ok_iff {path name : String} {key entry : Value} {d : Definition} :
    (∃ log, (readKeyed path key entry).report = (.ok (name, d), log)) ↔
      key.text = some name ∧ d.IsOf name entry := by
  cases hkey : key.text with
  | none =>
    rw [readKeyed, hkey]
    constructor
    · rintro ⟨log, h⟩
      exact absurd h not_report_throw
    · rintro ⟨hname, -⟩
      cases hname
  | some text =>
    rw [readKeyed_report_of_text path hkey]
    constructor
    · rintro ⟨log, h⟩
      obtain ⟨d', hd, hsame⟩ := map_eq_ok_iff.1 (congrArg Prod.fst h)
      obtain ⟨rfl, rfl⟩ := Prod.mk.inj hsame
      exact ⟨rfl, readEntry_report_eq_ok_iff.1 ⟨_, Prod.ext hd rfl⟩⟩
    · rintro ⟨hname, hd⟩
      obtain rfl := Option.some.inj hname
      obtain ⟨log, hreport⟩ := readEntry_report_eq_ok_iff.2 hd
      rw [hreport]
      exact ⟨log, rfl⟩

/-- The entries before the first one that is rejected, each with the text of its key. -/
def accepted (path : String) : List (Value × Value) → List (String × Value)
  | [] => []
  | (key, entry) :: rest =>
    match (Id.run (readKeyed path key entry).report).1 with
    | .ok (name, _) => (name, entry) :: accepted path rest
    | .error _ => []

/-! ## One definition -/

variable {l : Library} {name : String} {d : Definition}

theorem find?_key_eq_none_iff {α : Type} {table : List (String × α)} :
    table.find? (·.1 == name) = none ↔ name ∉ table.map (·.1) := by
  rw [List.find?_eq_none, List.mem_map]
  constructor
  · rintro h ⟨e, he, hname⟩
    exact h e he (beq_iff_eq.2 hname)
  · intro h e he hname
    exact h ⟨e, he, beq_iff_eq.1 hname⟩

theorem get?_eq_none_iff : l.get? name = none ↔ name ∉ l.names :=
  Option.map_eq_none_iff.trans find?_key_eq_none_iff

/-- The names after setting a definition. -/
theorem names_put (l : Library) (name : String) (d : Definition) :
    (l.put name d).names = if name ∈ l.names then l.names else l.names ++ [name] := by
  rw [put]
  by_cases hmem : name ∈ l.names
  · rw [if_pos hmem, if_pos hmem, names, List.map_map, names]
    apply List.map_congr_left
    intro e _
    by_cases he : e.1 = name <;> simp [he]
  · rw [if_neg hmem, if_neg hmem, names, List.map_append]
    rfl

theorem get?_put (l : Library) (name : String) (d : Definition) (name' : String) :
    (l.put name d).get? name' = if name = name' then some d else l.get? name' := by
  rw [put]
  by_cases hmem : name ∈ l.names
  · rw [if_pos hmem, get?, List.find?_map]
    have hpred : ((fun e : String × Definition => e.1 == name') ∘
        fun e => if e.1 == name then (name, d) else e) = fun e => e.1 == name' := by
      funext e
      by_cases he : e.1 = name <;> simp [he]
    rw [hpred, get?]
    cases hfind : l.table.find? (fun e => e.1 == name') with
    | none =>
      have hne : name ≠ name' := by
        rintro rfl
        exact get?_eq_none_iff.1 (by rw [get?, hfind]; rfl) hmem
      rw [if_neg hne]
      rfl
    | some e =>
      have hfound := List.find?_some hfind
      have he : e.1 = name' := beq_iff_eq.1 hfound
      by_cases hname : name = name'
      · simp [he, hname]
      · simp [he, hname, Ne.symm hname]
  · rw [if_neg hmem, get?, List.find?_append, Option.map_or]
    show (l.get? name').or _ = _
    by_cases hname : name = name'
    · subst hname
      rw [get?_eq_none_iff.2 hmem]
      simp
    · simp [hname]

/-- What is set is found in the table, and everything else was there. -/
theorem mem_table_put {e : String × Definition} (he : e ∈ (l.put name d).table) :
    e = (name, d) ∨ e ∈ l.table := by
  rw [put] at he
  split at he
  · obtain ⟨e', he', rfl⟩ := List.mem_map.1 he
    split
    · exact Or.inl rfl
    · exact Or.inr he'
  · rcases List.mem_append.1 he with he | he
    · exact Or.inr he
    · exact Or.inl (List.mem_singleton.1 he)

theorem nodup_names_put (h : l.names.Nodup) (name : String) (d : Definition) :
    (l.put name d).names.Nodup := by
  rw [names_put]
  split
  · exact h
  · next hmem =>
    refine List.nodup_append.2 ⟨h, List.pairwise_singleton _ _, ?_⟩
    rintro a ha b hb rfl
    rw [List.mem_singleton] at hb
    exact hmem (hb ▸ ha)

theorem path_put (l : Library) (name : String) (d : Definition) :
    (l.put name d).path = l.path := by
  rw [put]
  split <;> rfl

/-! ## One load -/

/-- Under each name the library has what the last of these entries with this name defines, and
nothing under any other name. -/
structure Follows (path : String) (entries : List (String × Value)) (l : Library) : Prop where
  path_eq : l.path = path
  nodup : l.names.Nodup
  key_eq : ∀ e ∈ l.table, e.2.name = e.1
  isPlain : ∀ e ∈ entries, e.2.IsPlain
  isOf : ∀ name entry, entries.reverse.lookup name = some entry →
    ∃ d, l.get? name = some d ∧ d.IsOf name entry
  none : ∀ name, entries.reverse.lookup name = none → l.get? name = none

variable {path : String} {before : List (String × Value)}

theorem lookup_reverse_concat (before : List (String × Value)) (name name' : String)
    (entry : Value) : (before ++ [(name, entry)]).reverse.lookup name' =
      if name = name' then some entry else before.reverse.lookup name' := by
  rw [List.reverse_concat, List.lookup_cons]
  by_cases hname : name = name'
  · rw [if_pos hname, beq_iff_eq.2 hname.symm]
  · rw [if_neg hname, beq_eq_false_iff_ne.2 (Ne.symm hname)]

/-- The step of a load that accepts an entry. -/
theorem Follows.put (h : l.Follows path before) {entry : Value} (hentry : entry.IsPlain)
    (hd : d.IsOf name entry) : (l.put name d).Follows path (before ++ [(name, entry)]) where
  path_eq := (path_put l name d).trans h.path_eq
  nodup := nodup_names_put h.nodup name d
  key_eq e he := by
    rcases mem_table_put he with rfl | he
    · exact hd.name_eq
    · exact h.key_eq e he
  isPlain e he := by
    rcases List.mem_append.1 he with he | he
    · exact h.isPlain e he
    · rw [List.mem_singleton.1 he]
      exact hentry
  isOf name' entry' hlast := by
    rw [lookup_reverse_concat] at hlast
    rw [get?_put]
    split at hlast
    · next hname =>
      cases hlast
      exact ⟨d, if_pos hname, hname ▸ hd⟩
    · next hname =>
      rw [if_neg hname]
      exact h.isOf name' entry' hlast
  none name' hlast := by
    rw [lookup_reverse_concat] at hlast
    rw [get?_put]
    split at hlast
    · cases hlast
    · next hname =>
      rw [if_neg hname]
      exact h.none name' hlast

/-- Whether a load goes through or stops, it adds what the accepted entries define. -/
theorem Follows.addEntries (h : l.Follows path before) {entries : List (Value × Value)}
    (hplain : ∀ e ∈ entries, e.2.IsPlain) :
    (l.addEntries entries).library.Follows path (before ++ accepted path entries) := by
  induction entries generalizing l before with
  | nil =>
    rw [accepted, List.append_nil]
    exact h
  | cons e rest ih =>
    obtain ⟨key, entry⟩ := e
    rw [accepted, Library.addEntries, h.path_eq]
    rcases hreport : Id.run (readKeyed path key entry).report with ⟨e | ⟨name, d⟩, log⟩
    · dsimp only
      rw [List.append_nil]
      exact h
    · obtain ⟨-, hd⟩ := readKeyed_report_eq_ok_iff.1 ⟨log, hreport⟩
      have hrest := ih (h.put (hplain _ List.mem_cons_self) hd)
        fun e he => hplain e (List.mem_cons_of_mem _ he)
      dsimp only
      rw [List.append_cons]
      exact hrest

/-- The entries of a document that a load accepts. -/
def acceptedOf (path : String) (data : Value) : List (String × Value) :=
  if data.truthy then accepted path ((entriesOf? data).getD []) else []

theorem entriesOf?_isPlain {data : Value} (hdata : data.IsPlain) {entries : List (Value × Value)}
    (h : entriesOf? data = some entries) : ∀ e ∈ entries, e.2.IsPlain := by
  have hfields := hdata.expose
  rw [entriesOf?] at h
  split at h
  · next fields hmap =>
    rw [hmap] at hfields
    split at h
    · next found hfound =>
      obtain ⟨v, hv, hexpose⟩ := Option.map_eq_some_iff.1 hfound
      have hentries := (hfields.lookup? hv).expose
      rw [hexpose] at hentries
      cases h
      cases hentries with
      | map _ hvalues => exact hvalues
    · cases h
    · cases h
      simp
  · cases h

theorem library_update (l : Library) (data : Value) :
    (l.update data).library =
      if data.truthy then (l.addEntries ((entriesOf? data).getD [])).library else l := by
  rw [update]
  cases data.truthy with
  | false => rfl
  | true =>
    cases entriesOf? data with
    | none => rfl
    | some entries =>
      dsimp only [Option.getD_some]
      cases (l.addEntries entries).outcome <;> rfl

theorem Follows.update (h : l.Follows path before) {data : Value} (hdata : data.IsPlain) :
    (l.update data).library.Follows path (before ++ acceptedOf path data) := by
  rw [library_update, acceptedOf]
  split
  · apply h.addEntries
    cases hentries : entriesOf? data with
    | none => simp
    | some entries => exact entriesOf?_isPlain hdata hentries
  · rw [List.append_nil]
    exact h

/-- A file has the values that the parser gives. -/
theorem readFile_isPlain {parse : Text.Feed → Except Document.Fault Value}
    (hparse : ∀ feed data, parse feed = .ok data → data.IsPlain) {path : String} {file : FileState}
    {data : Value} (h : readFile parse path file = .ok data) : data.IsPlain := by
  obtain ⟨feed, -, h⟩ := bind_eq_ok_iff.1 h
  split at h
  · next value hvalue =>
    cases h
    exact hparse feed data hvalue
  · cases h
  · cases h

/-- The entries that a load accepts from what stands at the path. -/
def acceptedIn (read : FileState → Except Error Value) (path : String) (file : FileState) :
    List (String × Value) :=
  if file.present then
    match read file with
    | .ok data => acceptedOf path data
    | .error _ => []
  else []

variable {read : FileState → Except Error Value}

theorem library_loadFrom (read : FileState → Except Error Value) (l : Library) (file : FileState) :
    (l.loadFrom read file).library =
      if file.present then
        match read file with
        | .ok data => (l.update data).library
        | .error _ => l
      else l := by
  rw [Library.loadFrom]
  cases file.present with
  | false => rfl
  | true => cases read file <;> rfl

theorem Follows.loadFrom (hread : ∀ file data, read file = .ok data → data.IsPlain)
    (h : l.Follows path before) (file : FileState) :
    (l.loadFrom read file).library.Follows path (before ++ acceptedIn read path file) := by
  rw [library_loadFrom, acceptedIn]
  split
  · cases hdata : read file with
    | error e =>
      dsimp only
      rw [List.append_nil]
      exact h
    | ok data => exact h.update (hread file data hdata)
  · rw [List.append_nil]
    exact h

/-! ## Any number of loads -/

/-- The library after loads, with what stands at the path at each of them. -/
def afterLoads (read : FileState → Except Error Value) (path : String) (files : List FileState) :
    Library :=
  files.foldl (fun l file => (l.loadFrom read file).library) (empty path)

/-- All entries that loads accept, in order. -/
def acceptedBy (read : FileState → Except Error Value) (path : String) (files : List FileState) :
    List (String × Value) :=
  files.flatMap (acceptedIn read (empty path).path)

theorem follows_empty (path : String) : (empty path).Follows (empty path).path [] :=
  ⟨rfl, List.nodup_nil, by simp [empty], by simp, by simp, by simp [get?, empty]⟩

theorem follows_afterLoads (hread : ∀ file data, read file = .ok data → data.IsPlain)
    (path : String) (files : List FileState) :
    (afterLoads read path files).Follows (empty path).path (acceptedBy read path files) := by
  have hrun : ∀ l before, Follows (empty path).path before l →
      (files.foldl (fun l file => (l.loadFrom read file).library) l).Follows (empty path).path
        (before ++ acceptedBy read path files) := by
    rw [acceptedBy]
    induction files with
    | nil => simp
    | cons file files ih =>
      intro l before h
      rw [List.foldl_cons, List.flatMap_cons, ← List.append_assoc]
      exact ih _ _ (h.loadFrom hread file)
  exact hrun _ [] (follows_empty path)

/-- With a parser of documents, these are the loads of the library. -/
theorem afterLoads_readFile {parse : Text.Feed → Except Document.Fault Value}
    (hparse : ∀ feed data, parse feed = .ok data → data.IsPlain) (path : String)
    (files : List FileState) :
    afterLoads (readFile parse (empty path).path) path files =
      files.foldl (fun l file => (l.loadWith parse file).library) (empty path) := by
  have hrun : ∀ before l, Follows (empty path).path before l →
      files.foldl (fun l file => (l.loadFrom (readFile parse (empty path).path) file).library) l =
        files.foldl (fun l file => (l.loadWith parse file).library) l := by
    induction files with
    | nil => exact fun _ _ _ => rfl
    | cons file files ih =>
      intro before l h
      rw [List.foldl_cons, List.foldl_cons, loadWith, h.path_eq]
      exact ih _ _ (h.loadFrom (fun _ _ => readFile_isPlain hparse) file)
  exact hrun [] _ (follows_empty path)

end Library

/-! ## Preparing patterns -/

/-- With resolved options, an expression is prepared. -/
theorem Matcher.exists_prepared_of_isResolved {m : Type → Type} [Monad m] {options : Value}
    {o : Options} (hoptions : Options.resolve options = .ok o) (ho : o.IsResolved)
    (expression : String) :
    ∃ left right : String, prepared (.str expression) options =
      .ok (ofTexts o expression left.toList right.toList : Matcher m) := by
  obtain ⟨left, right, hmarkers⟩ := ho.markers
  refine ⟨left, right, prepared_eq_ok_iff.2 ⟨o, expression, _, _, hoptions, ?_, rfl⟩⟩
  rw [hmarkers]
  rfl

namespace Library

theorem build_of_get?_eq_none {l : Library} {name : String} (h : l.get? name = none) :
    (l.build name : Action Id (Matcher Id)).report = (.error (.unknownName l.path name), []) := by
  rw [build, h]
  exact (Ends.throw _).report

/-- What the library prepares under a name is what the entry of that name gives by itself. -/
theorem exists_build_of_isOf {l : Library} {d : Definition} {name : String} {entry : Value}
    (hget : l.get? name = some d) (hd : d.IsOf name entry) (hresolved : d.options.IsResolved) :
    ∃ (x : Matcher Id) (log log' : Log),
      (l.build name : Action Id (Matcher Id)).report = (.ok x, log) ∧
        (Matcher.create none (.str d.expression) entry : Action Id (Matcher Id)).report =
          (.ok x, log') := by
  obtain ⟨left, right, hentry⟩ :=
    Matcher.exists_prepared_of_isResolved (m := Id) hd.options hresolved d.expression
  have hsame : Matcher.prepared (m := Id) (.str d.expression) d.options.toValue =
      Matcher.prepared (.str d.expression) entry := by
    rw [Matcher.prepared, Matcher.prepared, Options.resolve_toValue, hd.options]
  obtain ⟨log, hbuild⟩ := Matcher.create_report_eq_ok_iff.2 (hsame.trans hentry)
  obtain ⟨log', hcreate⟩ := Matcher.create_report_eq_ok_iff.2 hentry
  refine ⟨_, log, log', ?_, hcreate⟩
  rw [build, hget]
  exact hbuild

end Library

/-- After any loads, whatever stood at the path at each of them and however they ended, no name is
there twice, and each definition has the name that it stands under. A name is there exactly if some
entry was accepted under it. Then its definition has this name and resolved options, and building it
gives the matcher that the expression of the last such entry gives with the entry as its options.
Building any other name fails, since the library does not know it. -/
theorem build_afterLoads {read : FileState → Except Error Value}
    (hread : ∀ file data, read file = .ok data → data.IsPlain) (path : String)
    (files : List FileState) :
    (Library.afterLoads read path files).names.Nodup ∧
      (∀ e ∈ (Library.afterLoads read path files).table, e.2.name = e.1) ∧
      ∀ name : String,
        (∀ entry, (Library.acceptedBy read path files).reverse.lookup name = some entry →
          ∃ (d : Definition) (fields : List (Value × Value)) (x : Matcher Id) (log log' : Log),
            (Library.afterLoads read path files).get? name = some d ∧ d.name = name ∧
              d.options.IsResolved ∧ entry.expose = .map fields ∧
              Value.lookup? fields "expression" = some (.str d.expression) ∧
              ((Library.afterLoads read path files).build name :
                Action Id (Matcher Id)).report = (.ok x, log) ∧
              (Matcher.create none (.str d.expression) entry :
                Action Id (Matcher Id)).report = (.ok x, log')) ∧
        ((Library.acceptedBy read path files).reverse.lookup name = none →
          (Library.afterLoads read path files).get? name = none ∧
            ((Library.afterLoads read path files).build name :
              Action Id (Matcher Id)).report =
                (.error (.unknownName (Library.empty path).path name), [])) := by
  have hfollows := Library.follows_afterLoads hread path files
  refine ⟨hfollows.nodup, hfollows.key_eq, fun name => ⟨fun entry hlast => ?_, fun hlast => ?_⟩⟩
  · obtain ⟨d, hget, hd⟩ := hfollows.isOf name entry hlast
    obtain ⟨fields, hfields, hexpression, -⟩ := hd.fields
    have hmem : (name, entry) ∈ (Library.acceptedBy read path files).reverse := by
      obtain ⟨later, earlier, hsplit, -⟩ := List.lookup_eq_some_iff.1 hlast
      rw [hsplit]
      exact List.mem_append_right later List.mem_cons_self
    have hentry : entry.IsPlain := hfollows.isPlain (name, entry) (List.mem_reverse.1 hmem)
    have hresolved := Options.isResolved_of_resolve hentry hfields hd.options
    obtain ⟨x, log, log', hbuild, hcreate⟩ := Library.exists_build_of_isOf hget hd hresolved
    exact ⟨d, fields, x, log, log', hget, hd.name_eq, hresolved, hfields, hexpression, hbuild,
      hcreate⟩
  · have hget := hfollows.none name hlast
    refine ⟨hget, ?_⟩
    rw [← hfollows.path_eq]
    exact Library.build_of_get?_eq_none hget

/-- The last load stops at its second entry. Its first one stays, and takes the place of the entry of
that name in the first load. -/
theorem build_afterLoads_replaced :
    ∃ l : Library, l = [.file "patterns: {a: {expression: x}}".toUTF8, .absent,
          .file "patterns: {a: {expression: y, fieldMarkers: [<, 1]}, b: 0}".toUTF8].foldl
        (fun l file => (l.load file).library) (Library.empty "p") ∧
      ∃ (d : Definition) (x : Matcher Id) (log : Log), l.get? "a" = some d ∧ d.expression = "y" ∧
        d.options.IsResolved ∧ (l.build "a" : Action Id (Matcher Id)).report = (.ok x, log) := by
  have hparse : ∀ feed data, Document.ofFeed feed = .ok data → data.IsPlain :=
    fun _ _ => Document.isPlain_of_ofFeed
  have hread : ∀ file data,
      Library.readFile Document.ofFeed (Library.empty "p").path file = .ok data → data.IsPlain :=
    fun _ _ => Library.readFile_isPlain hparse
  have hafter := (build_afterLoads hread "p"
    [.file "patterns: {a: {expression: x}}".toUTF8, .absent,
      .file "patterns: {a: {expression: y, fieldMarkers: [<, 1]}, b: 0}".toUTF8]).2.2 "a"
  have hloads : Library.afterLoads (Library.readFile Document.ofFeed (Library.empty "p").path) "p"
      [.file "patterns: {a: {expression: x}}".toUTF8, .absent,
        .file "patterns: {a: {expression: y, fieldMarkers: [<, 1]}, b: 0}".toUTF8] = List.foldl
      (fun l file => (l.load file).library) (Library.empty "p") _ :=
    Library.afterLoads_readFile hparse "p" _
  rw [hloads] at hafter
  have hexpression : (([.file "patterns: {a: {expression: x}}".toUTF8, .absent,
      .file "patterns: {a: {expression: y, fieldMarkers: [<, 1]}, b: 0}".toUTF8].foldl
        (fun l file => (l.load file).library) (Library.empty "p")).get? "a").map (·.expression) =
          some "y" := by
    decide +kernel
  obtain ⟨d, hget, hd⟩ := Option.map_eq_some_iff.1 hexpression
  cases hlast : (Library.acceptedBy (Library.readFile Document.ofFeed (Library.empty "p").path)
      "p" _).reverse.lookup "a" with
  | none =>
    rw [(hafter.2 hlast).1] at hget
    cases hget
  | some entry =>
    obtain ⟨d', fields, x, log, -, hget', -, hresolved, -, -, hbuild, -⟩ := hafter.1 entry hlast
    obtain rfl : d = d' := Option.some.inj (hget.symm.trans hget')
    exact ⟨_, rfl, d, x, log, hget, hd, hresolved, hbuild⟩

end FieldPattern
