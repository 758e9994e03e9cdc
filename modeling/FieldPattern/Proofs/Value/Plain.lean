import FieldPattern.Options
import FieldPattern.Proofs.Action.Outcome
import FieldPattern.Proofs.Value.Parts

/-!
# Plain values

A value is *plain* if it is made of scalars, sequences, mappings and sets. The values of documents
are of this kind: nothing in them is a record, or markers or options that were settled before. What
is looked up in a plain value is plain, however deep it lies and also if the value contains itself
(`expose`, `lookup?`).

Options that a plain mapping specifies are *resolved*: the flags are truth values, and the markers
are two texts (`isResolved_of_resolve`). Resolved options do not change when they are resolved once
more.
-/

namespace FieldPattern

namespace Value

/-- The value is made of scalars, sequences, mappings and sets. -/
inductive IsPlain : Value → Prop
  | null : IsPlain .null
  | bool (b : Bool) : IsPlain (.bool b)
  | int (n : Int) : IsPlain (.int n)
  | float (x : Float) : IsPlain (.float x)
  | str (s : String) : IsPlain (.str s)
  | bytes (bs : List UInt8) : IsPlain (.bytes bs)
  | date (d : Date) : IsPlain (.date d)
  | moment (m : Moment) : IsPlain (.moment m)
  | list {items : List Value} : (∀ v ∈ items, IsPlain v) → IsPlain (.list items)
  | tuple {items : List Value} : (∀ v ∈ items, IsPlain v) → IsPlain (.tuple items)
  | set {items : List Value} : (∀ v ∈ items, IsPlain v) → IsPlain (.set items)
  | map {entries : List (Value × Value)} : (∀ e ∈ entries, IsPlain e.1) →
      (∀ e ∈ entries, IsPlain e.2) → IsPlain (.map entries)
  | link (n : Nat) : IsPlain (.link n)
  | pooled {pool : Array Value} (n : Nat) : (∀ v ∈ pool, IsPlain v) → IsPlain (.pooled pool n)

namespace IsPlain

theorem of_isScalar {v : Value} (h : v.isScalar = true) : v.IsPlain := by
  cases v with
  | null => exact null
  | bool b => exact bool b
  | int n => exact int n
  | float x => exact float x
  | str s => exact str s
  | bytes bs => exact bytes bs
  | date d => exact date d
  | moment m => exact moment m
  | _ => cases h

theorem outside {pool : Array Value} (hpool : ∀ v ∈ pool, IsPlain v) {v : Value} (h : v.IsPlain) :
    (v.outside pool).IsPlain := by
  unfold Value.outside
  split
  · exact pooled _ hpool
  · exact h

/-- The outermost layer of a plain value is plain. -/
theorem expose {v : Value} (h : v.IsPlain) : v.expose.IsPlain := by
  unfold Value.expose
  split
  · next pool n =>
    cases h with
    | pooled n hpool =>
      have hitems : ∀ items : List Value, (∀ v ∈ items, IsPlain v) →
          ∀ v ∈ items.map (Value.outside pool), IsPlain v := by
        intro items hitems v hv
        obtain ⟨w, hw, rfl⟩ := List.mem_map.1 hv
        exact (hitems w hw).outside hpool
      have hpart : ∀ w, pool[n]? = some w → w.IsPlain :=
        fun w hw => hpool w (Array.mem_of_getElem? hw)
      split
      · next items hn =>
        cases hpart _ hn with
        | list h => exact list (hitems items h)
      · next items hn =>
        cases hpart _ hn with
        | tuple h => exact tuple (hitems items h)
      · next entries hn =>
        cases hpart _ hn with
        | map hkeys hvalues =>
          refine map ?_ ?_ <;> intro e he <;> obtain ⟨part, hmem, rfl⟩ := List.mem_map.1 he
          · exact (hkeys part hmem).outside hpool
          · exact (hvalues part hmem).outside hpool
      · next w _ _ _ hn => exact hpart w hn
      · exact null
  · exact h

theorem lookup? {entries : List (Value × Value)} (h : (Value.map entries).IsPlain) {key : String}
    {v : Value} (hv : Value.lookup? entries key = some v) : v.IsPlain := by
  cases h with
  | map _ hvalues =>
    obtain ⟨e, he, rfl⟩ := Option.map_eq_some_iff.1 hv
    exact hvalues e (List.mem_of_find?_eq_some he)

theorem expose_ne_markers {v : Value} (h : v.IsPlain) (left right : Value) :
    v.expose ≠ .markers left right := by
  intro heq
  have hmarkers := h.expose
  rw [heq] at hmarkers
  cases hmarkers

end IsPlain
end Value

/-! ## Options of plain mappings -/

/-- A pair of texts. -/
def Markers.IsResolved (m : Markers) : Prop :=
  ∃ left right, m = ofTexts left right

/-- Truth values, and a pair of texts. -/
structure Options.IsResolved (o : Options) : Prop where
  global : ∃ b, o.global = .bool b
  markers : o.markers.IsResolved
  strict : ∃ b, o.strict = .bool b
  weak : ∃ b, o.weak = .bool b

theorem Markers.isResolved_of_ofSides {left right : Value} {m : Markers}
    (h : ofSides left right = .ok m) : m.IsResolved := by
  obtain ⟨l, -, h⟩ := bind_eq_ok_iff.1 h
  obtain ⟨r, -, h⟩ := bind_eq_ok_iff.1 h
  exact ⟨l, r, (Except.ok.inj h).symm⟩

theorem Markers.isResolved_of_resolve {spec : Value} (hspec : spec.IsPlain) {m : Markers}
    (h : resolve spec = .ok m) : m.IsResolved := by
  have hbare : ∀ {m : Markers}, Except.ok (ε := Error) bare = .ok m → m.IsResolved := by
    intro m h
    exact ⟨"", "", (Except.ok.inj h).symm⟩
  rw [resolve] at h
  split at h
  · exact hbare h
  · split at h
    · next hmarkers => exact absurd hmarkers (hspec.expose_ne_markers _ _)
    · exact ⟨_, _, (Except.ok.inj h).symm⟩
    · exact isResolved_of_ofSides h
    · exact isResolved_of_ofSides h
    · exact isResolved_of_ofSides h
    · exact isResolved_of_ofSides h
    · exact hbare h

namespace Options

theorem Key.value_isPlain {entries : List (Value × Value)} (h : (Value.map entries).IsPlain)
    (key : Key) : (key.value entries).IsPlain := by
  rw [Key.value]
  cases hfirst : Value.lookup? entries key.first with
  | some v => exact h.lookup? hfirst
  | none =>
    cases hsecond : Value.lookup? entries key.second with
    | some v => exact h.lookup? hsecond
    | none => exact Value.IsPlain.null

/-- A plain mapping specifies resolved options, if any. -/
theorem isResolved_of_resolve {spec : Value} {entries : List (Value × Value)}
    (hspec : spec.IsPlain) (hmap : spec.expose = .map entries) {o : Options}
    (h : resolve spec = .ok o) : o.IsResolved := by
  have hentries := hspec.expose
  rw [hmap] at hentries
  rw [resolve, hmap] at h
  dsimp only at h
  obtain ⟨m, hmarkers, h⟩ := bind_eq_ok_iff.1 h
  cases h
  exact ⟨⟨_, rfl⟩, Markers.isResolved_of_resolve (Key.value_isPlain hentries _) hmarkers,
    ⟨_, rfl⟩, ⟨_, rfl⟩⟩

/-- Settled options are kept. -/
theorem resolve_toValue (o : Options) : resolve o.toValue = .ok o :=
  rfl

end Options
end FieldPattern
