import FieldPattern.Value.Basic
import Mathlib.Logic.Relation

/-!
# What stands in a value

The parts of a value are those which its text shows, one layer down, and what stands in a value is
found by going from part to part (`IsIn`). A value may stand in itself by way of a pool.

In a pool a collection holds scalars and numbers, and a number should name a collection of the same
pool. If this is so for the whole pool, a value of the pool is *whole*: no number that stands in it
misses its collection (`isWhole_pooled`). It is how pools are made, and not a condition on what stands
in them. What a key of a whole value leads to is whole.
-/

namespace FieldPattern
namespace Value

/-- The values that are written in the text of a value, one layer down. -/
def parts (v : Value) : List Value :=
  match v.expose with
  | list items | tuple items | set items => items
  | map entries => entries.flatMap fun e => [e.1, e.2]
  | record attributes => (attributes.filter fun a => !a.1.isEmpty).map (·.2)
  | markers left right => [left, right]
  | options global left right strict weak => [global, left, right, strict, weak]
  | _ => []

/-- The value is another one or stands in it, at any depth. -/
def IsIn (w v : Value) : Prop :=
  Relation.ReflTransGen (fun v w => w ∈ v.parts) v w

/-- A value without parts. -/
def isScalar : Value → Bool
  | null | bool _ | int _ | float _ | str _ | bytes _ | date _ | moment _ => true
  | _ => false

/-- A scalar, or the number of a collection. -/
def isPoolPart : Value → Bool
  | link _ => true
  | v => v.isScalar

/-- A collection as a pool keeps it. A set has scalars only. -/
def isPoolCollection : Value → Bool
  | list items | tuple items => items.all isPoolPart
  | map entries => entries.all fun e => e.1.isPoolPart && e.2.isPoolPart
  | set items => items.all isScalar
  | _ => false

/-- Numbers of collections stand in pools only, and name a collection there. -/
def isPlaced : Value → Bool
  | link _ => false
  | pooled pool n => (pool[n]?).any isPoolCollection
  | _ => true

/-- No collection that stands in the value is missing in its pool. -/
def IsWhole (v : Value) : Prop :=
  ∀ w : Value, w.IsIn v → w.isPlaced = true

section

variable {v w : Value} {pool : Array Value} {n : Nat}

theorem isPoolPart_of_isScalar (h : v.isScalar = true) : v.isPoolPart = true := by
  unfold isPoolPart
  split
  · rfl
  · exact h

theorem isPlaced_of_isScalar (h : v.isScalar = true) : v.isPlaced = true := by
  unfold isPlaced
  split
  · cases h
  · cases h
  · rfl

theorem parts_of_isScalar (h : v.isScalar = true) : v.parts = [] := by
  cases v <;> simp_all [isScalar, parts, expose]

/-- Nothing else stands in a scalar. -/
theorem eq_of_isIn_of_isScalar (h : v.isScalar = true) (hw : w.IsIn v) : w = v := by
  rcases Relation.ReflTransGen.cases_head hw with rfl | ⟨u, hu, -⟩
  · rfl
  · simp [parts_of_isScalar h] at hu

theorem isWhole_of_isScalar (h : v.isScalar = true) : v.IsWhole := by
  intro w hw
  rw [eq_of_isIn_of_isScalar h hw]
  exact isPlaced_of_isScalar h

theorem outside_of_isScalar (h : v.isScalar = true) : v.outside pool = v := by
  unfold outside
  split
  · cases h
  · rfl

theorem isPoolPart_of_mem_parts (h : v.isPoolCollection = true) (hw : w ∈ v.parts) :
    w.isPoolPart = true := by
  cases v with
  | list items | tuple items => exact List.all_eq_true.1 h w hw
  | map entries =>
    obtain ⟨e, he, hw⟩ := List.mem_flatMap.1 hw
    obtain ⟨hkey, hvalue⟩ := Bool.and_eq_true_iff.1 (List.all_eq_true.1 h e he)
    rcases List.mem_cons.1 hw with rfl | hw
    · exact hkey
    · rwa [List.mem_singleton.1 hw]
  | set items => exact isPoolPart_of_isScalar (List.all_eq_true.1 h w hw)
  | _ => cases h

theorem isPlaced_pooled_iff :
    (pooled pool n).isPlaced = true ↔ ∃ c, pool[n]? = some c ∧ c.isPoolCollection = true :=
  Option.any_eq_true _ _

/-- The parts of a collection of a pool, seen from outside. -/
theorem parts_pooled {c : Value} (hc : pool[n]? = some c)
    (hcollection : c.isPoolCollection = true) :
    (pooled pool n).parts = c.parts.map (outside pool) := by
  cases c with
  | list items => simp [parts, expose, hc]
  | tuple items => simp [parts, expose, hc]
  | map entries => simp [parts, expose, hc, List.flatMap_map, List.map_flatMap]
  | set items =>
    have hitems : items.map (outside pool) = items :=
      (List.map_congr_left fun v hv =>
        outside_of_isScalar (List.all_eq_true.1 hcollection v hv)).trans (List.map_id items)
    simp [parts, expose, hc, hitems]
  | _ => cases hcollection

/-- The parts of the collections are scalars and numbers of collections. -/
def IsClosedPool (pool : Array Value) : Prop :=
  ∀ c ∈ pool, c.isPoolCollection = true → ∀ v ∈ c.parts,
    v.isScalar = true ∨ ∃ n, v = link n ∧ (pooled pool n).isPlaced = true

/-- In a closed pool no number misses its collection, at any depth. -/
theorem isWhole_pooled (hpool : IsClosedPool pool) (h : (pooled pool n).isPlaced = true) :
    (pooled pool n).IsWhole := by
  intro w hw
  have hform : w.isScalar = true ∨ ∃ m, w = pooled pool m ∧ w.isPlaced = true := by
    induction hw with
    | refl => exact Or.inr ⟨n, rfl, h⟩
    | @tail u w _ hpart ih =>
      rcases ih with hscalar | ⟨m, rfl, hplaced⟩
      · simp [parts_of_isScalar hscalar] at hpart
      · obtain ⟨c, hc, hcollection⟩ := isPlaced_pooled_iff.1 hplaced
        rw [parts_pooled hc hcollection] at hpart
        obtain ⟨v, hv, rfl⟩ := List.mem_map.1 hpart
        rcases hpool c (Array.mem_of_getElem? hc) hcollection v hv with hscalar | ⟨k, rfl, hk⟩
        · rw [outside_of_isScalar hscalar]
          exact Or.inl hscalar
        · exact Or.inr ⟨k, rfl, hk⟩
  rcases hform with hscalar | ⟨m, rfl, hplaced⟩
  · exact isPlaced_of_isScalar hscalar
  · exact hplaced

/-! ## What keys lead to -/

namespace IsWhole

variable {entries : List (Value × Value)}

theorem of_mem_parts (h : v.IsWhole) (hw : w ∈ v.parts) : w.IsWhole :=
  fun u hu => h u (.head hw hu)

theorem entry (h : v.IsWhole) (hv : v.expose = map entries) {e : Value × Value}
    (he : e ∈ entries) : e.1.IsWhole ∧ e.2.IsWhole := by
  have hpart : ∀ w ∈ [e.1, e.2], w.IsWhole := by
    intro w hw
    apply h.of_mem_parts
    rw [parts, hv]
    exact List.mem_flatMap.2 ⟨e, he, hw⟩
  exact ⟨hpart _ (by simp), hpart _ (by simp)⟩

/-- What a key of a mapping leads to, or nothing. -/
theorem lookup? (h : v.IsWhole) (hv : v.expose = map entries) (key : String) :
    ((Value.lookup? entries key).getD null).IsWhole := by
  cases hfound : Value.lookup? entries key with
  | none => exact isWhole_of_isScalar rfl
  | some w =>
    obtain ⟨e, he, rfl⟩ := Option.map_eq_some_iff.1 hfound
    exact (h.entry hv (List.mem_of_find?_eq_some he)).2

theorem attribute? (h : v.IsWhole) {attributes : List (String × Value)}
    (hv : v.expose = record attributes) {name : String} (hname : name ≠ "") :
    ((Value.attribute? attributes name).getD null).IsWhole := by
  cases hfound : Value.attribute? attributes name with
  | none => exact isWhole_of_isScalar rfl
  | some w =>
    obtain ⟨a, ha, rfl⟩ := Option.map_eq_some_iff.1 hfound
    have hsame := List.find?_some ha
    apply h.of_mem_parts
    rw [parts, hv]
    refine List.mem_map_of_mem (List.mem_filter.2 ⟨List.mem_of_find?_eq_some ha, ?_⟩)
    simpa [beq_iff_eq.1 hsame] using hname

end IsWhole

end

end Value
end FieldPattern
