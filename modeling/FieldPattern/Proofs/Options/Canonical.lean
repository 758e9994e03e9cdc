import FieldPattern.Proofs.Markers.Shapes
import FieldPattern.Proofs.Value.Plain
import FieldPattern.Proofs.Value.Writable

/-!
# Options in their settled form

Whatever specifies options, what comes out is a settled form: its four fields, given again in any of
the ways to give them, make the same options (`resolve_isCanonical`). The flags come out as truth
values, which is what a mapping makes of them, and the markers come out settled. For options that
were settled in the first place this would fail, since their flags are kept as they are.

A mapping is looked at under eight keys only, two for each option, and no key belongs to two
options. Under the second key of an option it is looked at only if the first is absent; that the
first has a value that counts as false, or none, is not enough. So the order of the keys, every
other key, and a second key behind a first one do not matter, one change after another (`Alters`).
-/

namespace FieldPattern

/-! ## Keys of a mapping -/

namespace Value

variable {entries entries' : List (Value × Value)} {k : String}

/-- No two entries have the same key. -/
def HasDistinctKeys (entries : List (Value × Value)) : Prop :=
  entries.Pairwise fun a b => a.1.sameKey b.1 = false

/-- No key but the text itself is the same as a text. -/
theorem sameKey_str_iff {v : Value} : v.sameKey (str k) = true ↔ v = str k := by
  have hnone : (str k).wholeNumber? = none := rfl
  cases v with
  | str s => simp [sameKey]
  | float x =>
    simp only [sameKey, hnone]
    cases (float x).wholeNumber? <;> simp
  | _ => simp [sameKey, wholeNumber?]

theorem lookup?_filter {p : Value → Bool} (hk : p (str k) = true) :
    lookup? (entries.filter fun e => p e.1) k = lookup? entries k := by
  rw [lookup?, lookup?, List.find?_filter]
  congr 2
  funext e
  by_cases hkey : e.1.sameKey (str k) = true
  · simp [sameKey_str_iff.1 hkey, hk]
  · simp [hkey]

theorem lookup?_eq_of_filter {p : Value → Bool} (hk : p (str k) = true)
    (h : entries.filter (fun e => p e.1) = entries'.filter fun e => p e.1) :
    lookup? entries' k = lookup? entries k := by
  rw [← lookup?_filter hk, ← h, lookup?_filter hk]

/-- Entries with the same key cannot change places, since there are none. -/
theorem lookup?_perm (hkeys : HasDistinctKeys entries) (h : entries.Perm entries') :
    lookup? entries k = lookup? entries' k := by
  rw [lookup?, lookup?, ← List.head?_filter, ← List.head?_filter]
  have hfound := h.filter fun e => e.1.sameKey (str k)
  have hdistinct : HasDistinctKeys (entries.filter fun e => e.1.sameKey (str k)) :=
    List.Pairwise.filter _ hkeys
  cases hs : entries.filter fun e => e.1.sameKey (str k) with
  | nil =>
    rw [hs] at hfound
    rw [List.nil_perm.1 hfound]
  | cons a rest =>
    cases rest with
    | nil =>
      rw [hs] at hfound
      rw [List.singleton_perm.1 hfound]
    | cons b rest =>
      have hkey : ∀ e ∈ a :: b :: rest, e.1 = str k := by
        rw [← hs]
        intro e he
        exact sameKey_str_iff.1 (List.mem_filter.1 he).2
      rw [hs] at hdistinct
      have hne := (List.pairwise_cons.1 hdistinct).1 b List.mem_cons_self
      rw [hkey a (by simp), hkey b (by simp), sameKey_str_iff.2 rfl] at hne
      cases hne

end Value

/-! ## Markers with sides that can be written -/

namespace Markers

theorem exists_side {v : Value} (h : v.IsWritable) : ∃ s, side v = .ok s := by
  obtain ⟨s, hs⟩ := Value.exists_text h
  unfold side
  split
  · exact ⟨"", rfl⟩
  · rw [hs]
    exact ⟨s, rfl⟩

theorem exists_resolve {spec : Value} (h : ∀ left right, sides? spec = some (left, right) →
    left.IsWritable ∧ right.IsWritable) : ∃ m, resolve spec = .ok m := by
  cases hsides : sides? spec with
  | none => exact exists_resolve_of_sides?_eq_none hsides
  | some sides =>
    obtain ⟨hleft, hright⟩ := h sides.1 sides.2 hsides
    obtain ⟨l, hl⟩ := exists_side hleft
    obtain ⟨r, hr⟩ := exists_side hright
    refine ⟨ofTexts l r, ?_⟩
    rw [resolve_of_sides? hsides, ofSides, hl, hr]
    rfl

end Markers

/-! ## The mapping that options are made of -/

namespace Options

/-- The spellings of a key. -/
def Key.spellings (key : Key) : List String :=
  [key.first, key.second]

/-- The keys of the options, each with the field that it sets. -/
def fields : List (Key × (Options → Value)) :=
  [(globalKey, fun o => o.global), (markersKey, fun o => o.markers.toValue),
    (strictKey, fun o => o.strict), (weakKey, fun o => o.weak)]

/-- All spellings of keys. -/
def spellings : List String :=
  fields.flatMap fun f => f.1.spellings

/-- The key is a spelling. -/
def isSpelling (key : Value) : Bool :=
  spellings.any fun s => key.sameKey (.str s)

/-- The options as a mapping, with one of the two spellings of their keys. -/
def toEntries (spelling : Key → String) (o : Options) : List (Value × Value) :=
  fields.map fun f => (.str (spelling f.1), f.2 o)

/-- A change of a mapping that leaves the options which it specifies. -/
inductive Alters (entries entries' : List (Value × Value)) : Prop
  /-- The keys are put in another order. -/
  | order (hkeys : Value.HasDistinctKeys entries) (h : entries.Perm entries')
  /-- Entries under keys that are no spellings come, go or change. -/
  | others (h : entries.filter (fun e => isSpelling e.1) = entries'.filter fun e => isSpelling e.1)
  /-- The entry under the second key of an option comes, goes or changes, behind a first one. -/
  | second {f : Key × (Options → Value)} (hf : f ∈ fields)
      (hfirst : (Value.lookup? entries f.1.first).isSome = true)
      (h : entries.filter (fun e => !e.1.sameKey (.str f.1.second)) =
        entries'.filter fun e => !e.1.sameKey (.str f.1.second))

variable {entries entries' : List (Value × Value)}

section Keys

variable {f g : Key × (Options → Value)}

theorem nodup_spellings : spellings.Nodup := by
  decide

theorem mem_spellings (hf : f ∈ fields) : f.1.first ∈ spellings ∧ f.1.second ∈ spellings :=
  ⟨List.mem_flatMap.2 ⟨f, hf, by simp [Key.spellings]⟩,
    List.mem_flatMap.2 ⟨f, hf, by simp [Key.spellings]⟩⟩

theorem first_ne_second (hf : f ∈ fields) (hg : g ∈ fields) : f.1.first ≠ g.1.second := by
  have hkeys : ∀ a ∈ fields.map (·.1), ∀ b ∈ fields.map (·.1), a.first ≠ b.second := by decide
  exact hkeys f.1 (List.mem_map_of_mem hf) g.1 (List.mem_map_of_mem hg)

theorem first_eq_of_second_eq (hf : f ∈ fields) (hg : g ∈ fields) (h : f.1.second = g.1.second) :
    f.1.first = g.1.first := by
  have hkeys : ∀ a ∈ fields.map (·.1), ∀ b ∈ fields.map (·.1), a.second = b.second →
      a.first = b.first := by decide
  exact hkeys f.1 (List.mem_map_of_mem hf) g.1 (List.mem_map_of_mem hg) h

/-- The second key is not looked at behind a first one. -/
theorem Key.value_congr {key : Key}
    (hfirst : Value.lookup? entries' key.first = Value.lookup? entries key.first)
    (hsecond : Value.lookup? entries key.first = none →
      Value.lookup? entries' key.second = Value.lookup? entries key.second) :
    key.value entries' = key.value entries := by
  rw [Key.value, Key.value, hfirst]
  cases hlookup : Value.lookup? entries key.first with
  | none => rw [hsecond hlookup]
  | some v => rfl

theorem Alters.value_eq (h : Alters entries entries') (hf : f ∈ fields) :
    f.1.value entries' = f.1.value entries := by
  cases h with
  | order hkeys h =>
    exact Key.value_congr (Value.lookup?_perm hkeys h).symm fun _ =>
      (Value.lookup?_perm hkeys h).symm
  | others h =>
    have hlookup : ∀ k ∈ spellings, Value.lookup? entries' k = Value.lookup? entries k := by
      intro k hk
      exact Value.lookup?_eq_of_filter (p := isSpelling)
        (List.any_eq_true.2 ⟨k, hk, Value.sameKey_str_iff.2 rfl⟩) h
    exact Key.value_congr (hlookup _ (mem_spellings hf).1) fun _ => hlookup _ (mem_spellings hf).2
  | @second g hg hfirst h =>
    have hlookup : ∀ k, k ≠ g.1.second →
        Value.lookup? entries' k = Value.lookup? entries k := by
      intro k hk
      exact Value.lookup?_eq_of_filter (p := fun key => !key.sameKey (.str g.1.second))
        (by simp [Value.sameKey, hk]) h
    refine Key.value_congr (hlookup _ (first_ne_second hf hg)) fun hnone => hlookup _ ?_
    intro hsecond
    rw [← first_eq_of_second_eq hf hg hsecond, hnone] at hfirst
    cases hfirst

end Keys

/-! ## Resolving -/

section Resolving

variable {spec spec' : Value} {o o' : Options}

theorem resolve_of_map (h : spec.expose = .map entries) : resolve spec = ofEntries entries := by
  rw [resolve, h]

/-- What a mapping specifies is read off its values under the keys. -/
theorem ofEntries_eq_ok_iff :
    ofEntries entries = .ok o ↔ Markers.resolve (markersKey.value entries) = .ok o.markers ∧
      o.global = globalKey.flag entries ∧ o.strict = strictKey.flag entries ∧
        o.weak = weakKey.flag entries := by
  rw [ofEntries, bind_eq_ok_iff]
  constructor
  · rintro ⟨m, hm, h⟩
    obtain rfl := Except.ok.inj h
    exact ⟨hm, rfl, rfl, rfl⟩
  · rintro ⟨hm, hglobal, hstrict, hweak⟩
    refine ⟨o.markers, hm, ?_⟩
    rw [← hglobal, ← hstrict, ← hweak]
    rfl

/-- Each field is made of the values under its own keys. -/
theorem field_eq (h : ofEntries entries = .ok o) (h' : ofEntries entries' = .ok o')
    {f : Key × (Options → Value)} (hf : f ∈ fields)
    (hvalue : f.1.value entries' = f.1.value entries) : f.2 o' = f.2 o := by
  obtain ⟨hmarkers, hglobal, hstrict, hweak⟩ := ofEntries_eq_ok_iff.1 h
  obtain ⟨hmarkers', hglobal', hstrict', hweak'⟩ := ofEntries_eq_ok_iff.1 h'
  simp only [fields, List.mem_cons, List.not_mem_nil, or_false] at hf
  rcases hf with rfl | rfl | rfl | rfl
  · simp only [hglobal, hglobal', Key.flag, hvalue]
  · rw [hvalue, hmarkers] at hmarkers'
    exact congrArg Markers.toValue (Except.ok.inj hmarkers').symm
  · simp only [hstrict, hstrict', Key.flag, hvalue]
  · simp only [hweak, hweak', Key.flag, hvalue]

theorem ofEntries_congr (h : ∀ f ∈ fields, f.1.value entries' = f.1.value entries) :
    ofEntries entries' = ofEntries entries := by
  simp only [fields, List.forall_mem_cons] at h
  obtain ⟨hglobal, hmarkers, hstrict, hweak, -⟩ := h
  simp only [ofEntries, Key.flag, hglobal, hmarkers, hstrict, hweak]

theorem ofEntries_alters (h : Relation.ReflTransGen Alters entries entries') :
    ofEntries entries' = ofEntries entries := by
  induction h with
  | refl => rfl
  | tail _ hstep ih => rw [ofEntries_congr fun f hf => hstep.value_eq hf, ih]

/-- The flags are truth values. -/
structure HasTruthFlags (o : Options) : Prop where
  global : ∃ b, o.global = .bool b
  strict : ∃ b, o.strict = .bool b
  weak : ∃ b, o.weak = .bool b

/-- Options come out of everything but settled options with truth values for their flags, if the
sides of the markers can be written. -/
theorem exists_resolve (hspec : isSettled spec.expose = false)
    (hsides : ∀ left right, Markers.sides? (markerSpec spec) = some (left, right) →
      left.IsWritable ∧ right.IsWritable) : ∃ o, resolve spec = .ok o ∧ o.HasTruthFlags := by
  rw [resolve]
  split
  · next hlayer =>
    rw [hlayer] at hspec
    cases hspec
  · next flags _ => exact ⟨ofFlags flags, rfl, ⟨_, rfl⟩, ⟨_, rfl⟩, ⟨_, rfl⟩⟩
  · next entries hlayer =>
    rw [markerSpec, hlayer] at hsides
    obtain ⟨m, hm⟩ := Markers.exists_resolve hsides
    exact ⟨⟨globalKey.flag entries, m, strictKey.flag entries, weakKey.flag entries⟩,
      ofEntries_eq_ok_iff.2 ⟨hm, rfl, rfl, rfl⟩, ⟨_, rfl⟩, ⟨_, rfl⟩, ⟨_, rfl⟩⟩
  · exact ⟨default, rfl, ⟨_, rfl⟩, ⟨_, rfl⟩, ⟨_, rfl⟩⟩

/-- A mapping of settled options has their fields under both spellings. -/
theorem resolve_toEntries (h : o.HasTruthFlags) {spelling : Key → String}
    (hspelling : spelling = Key.first ∨ spelling = Key.second) :
    resolve (.map (o.toEntries spelling)) = .ok o := by
  obtain ⟨global, markers, strict, weak⟩ := o
  obtain ⟨⟨g, rfl⟩, ⟨s, rfl⟩, ⟨w, rfl⟩⟩ := h
  rcases hspelling with rfl | rfl <;> rfl

/-- Nothing is written about settled markers, and nothing is done to them. -/
theorem settle_ends {m : Type → Type} [Monad m] [LawfulMonad m] (o : Options) :
    (settle o.global o.markers.toValue o.strict o.weak : Action m Options).Ends (.ok o) [] := by
  have hmarkers : (Markers.resolveLogged o.markers.toValue : Action m Markers).Ends
      (.ok o.markers) [] :=
    Action.Ends.pure o.markers
  exact hmarkers.map fun markers => (⟨o.global, markers, o.strict, o.weak⟩ : Options)

end Resolving

/-- What specifies options and is not settled itself settles to options that come out again of their
four fields, given to be settled or as a mapping in either spelling, and that stay as they are. All
options with truth values for their flags come out in this way. No spelling belongs to two options.
Of a mapping the order of keys, other keys and second keys behind first ones do not matter, and each
field comes from the values under its own two keys. -/
theorem resolve_isCanonical {m : Type → Type} [Monad m] [LawfulMonad m] {spec : Value}
    (hspec : isSettled spec.expose = false)
    (hsides : ∀ left right, Markers.sides? (markerSpec spec) = some (left, right) →
      left.IsWritable ∧ right.IsWritable) :
    spellings.Nodup ∧
      (∀ o : Options, o.HasTruthFlags → resolve (.map (o.toEntries Key.first)) = .ok o) ∧
      ∃ r, resolve spec = .ok r ∧ r.HasTruthFlags ∧
      (settle r.global r.markers.toValue r.strict r.weak : Action m Options).Ends (.ok r) [] ∧
      resolve (.map (r.toEntries Key.first)) = .ok r ∧
      resolve (.map (r.toEntries Key.second)) = .ok r ∧
      resolve r.toValue = .ok r ∧ isSettled r.toValue = true ∧
      ∀ entries, spec.expose = .map entries → ∀ spec' entries', spec'.expose = .map entries' →
        (Relation.ReflTransGen Alters entries entries' → resolve spec' = .ok r) ∧
          ∀ f ∈ fields,
            (∀ k ∈ f.1.spellings, Value.lookup? entries' k = Value.lookup? entries k) →
              ∀ r', resolve spec' = .ok r' → f.2 r' = f.2 r := by
  obtain ⟨r, hr, hflags⟩ := exists_resolve hspec hsides
  refine ⟨nodup_spellings, fun o ho => resolve_toEntries ho (Or.inl rfl), r, hr, hflags,
    settle_ends r, resolve_toEntries hflags (Or.inl rfl), resolve_toEntries hflags (Or.inr rfl),
    resolve_toValue r, rfl, ?_⟩
  intro entries hentries spec' entries' hentries'
  rw [resolve_of_map hentries] at hr
  constructor
  · intro halters
    rw [resolve_of_map hentries', ofEntries_alters halters, hr]
  · intro f hf hkeys r' hr'
    rw [resolve_of_map hentries'] at hr'
    refine field_eq hr hr' hf (Key.value_congr ?_ fun _ => ?_)
    · exact hkeys _ (by simp [Key.spellings])
    · exact hkeys _ (by simp [Key.spellings])

/-- A first key without a value decides against the second one behind it. So only this key and the
markers are left of a mapping, in any order. -/
theorem resolve_isCanonical_reordered :
    ∃ r, resolve (.map [(.str "x", .null), (.str "global_", .int 2), (.str "global", .null),
        (.str "field_markers", .list [.int 12, .null])]) = .ok r ∧
      (settle r.global r.markers.toValue r.strict r.weak : Action Id Options).Ends (.ok r) [] ∧
      resolve (.map (r.toEntries Key.first)) = .ok r ∧
      resolve (.map (r.toEntries Key.second)) = .ok r ∧ resolve r.toValue = .ok r ∧
      resolve (.map [(.str "field_markers", .list [.int 12, .null]), (.str "global", .null)]) =
        .ok r := by
  have hsides : ∀ left right, Markers.sides? (markerSpec (.map [(.str "x", .null),
      (.str "global_", .int 2), (.str "global", .null),
        (.str "field_markers", .list [.int 12, .null])])) = some (left, right) →
      left.IsWritable ∧ right.IsWritable := by
    intro left right h
    have hpair : some (Value.int 12, Value.null) = some (left, right) := h
    obtain ⟨rfl, rfl⟩ := Prod.mk.inj (Option.some.inj hpair)
    constructor
    · refine Value.isWritable_iff.2 ⟨rfl, ?_, by simp [Value.parts, Value.expose]⟩
      intro n hn
      obtain rfl := Value.int.inj hn
      decide
    · exact Value.isWritable_iff.2 ⟨rfl, by simp, by simp [Value.parts, Value.expose]⟩
  obtain ⟨-, -, r, hr, -, hsettle, hfirst, hsecond, hvalue, -, hmapping⟩ :=
    resolve_isCanonical (m := Id) rfl hsides
  have horder : Alters
      [(.str "x", .null), (.str "global_", .int 2), (.str "global", .null),
        (.str "field_markers", .list [.int 12, .null])]
      [(.str "field_markers", .list [.int 12, .null]), (.str "global", .null),
        (.str "global_", .int 2), (.str "x", .null)] :=
    .order (by simp [Value.HasDistinctKeys, Value.sameKey]) (List.reverse_perm _).symm
  have hother : Alters
      [(.str "field_markers", .list [.int 12, .null]), (.str "global", .null),
        (.str "global_", .int 2), (.str "x", .null)]
      [(.str "field_markers", .list [.int 12, .null]), (.str "global", .null),
        (.str "global_", .int 2)] :=
    .others rfl
  have hbehind : Alters
      [(.str "field_markers", .list [.int 12, .null]), (.str "global", .null),
        (.str "global_", .int 2)]
      [(.str "field_markers", .list [.int 12, .null]), (.str "global", .null)] :=
    .second (f := (globalKey, _)) List.mem_cons_self rfl rfl
  refine ⟨r, hr, hsettle, hfirst, hsecond, hvalue, (hmapping _ rfl _ _ rfl).1 ?_⟩
  exact .head horder (.head hother (.single hbehind))

end Options
end FieldPattern
