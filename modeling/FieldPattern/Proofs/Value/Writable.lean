import FieldPattern.Proofs.Value.Parts
import FieldPattern.Value.Render
import Mathlib.Data.List.Perm.Subperm

/-!
# Values that can be written

A value has a text unless an integer of more than 4300 digits stands in it, however deep
(`exists_text`). For a value that is a tree this is an induction on the value. The collections of a
pool may contain themselves, so there the writer counts its way down, and the collections that it is
inside of are a list without repetition. A collection of that list is not entered again, so the list
grows with every step and cannot become longer than the pool: the count suffices.
-/

namespace FieldPattern
namespace Value

/-- No integer in the value has more than 4300 digits, and no collection is missing in its pool. -/
structure IsWritable (v : Value) : Prop where
  isPlaced : ∀ w : Value, w.IsIn v → w.isPlaced = true
  isShort : ∀ n : Int, (int n).IsIn v → (Nat.toDigits 10 n.natAbs).length ≤ 4300

theorem isWritable_iff {v : Value} :
    v.IsWritable ↔ v.isPlaced = true ∧
      (∀ n, v = int n → (Nat.toDigits 10 n.natAbs).length ≤ 4300) ∧
        ∀ w ∈ v.parts, w.IsWritable := by
  constructor
  · intro h
    refine ⟨h.isPlaced v .refl, ?_, fun w hw => ⟨fun u hu => ?_, fun n hn => ?_⟩⟩
    · rintro n rfl
      exact h.isShort n .refl
    · exact h.isPlaced u (.head hw hu)
    · exact h.isShort n (.head hw hn)
  · rintro ⟨hplaced, hshort, hparts⟩
    refine ⟨fun w hw => ?_, fun n hn => ?_⟩
    · rcases Relation.ReflTransGen.cases_head hw with rfl | ⟨u, hu, huw⟩
      · exact hplaced
      · exact (hparts u hu).isPlaced w huw
    · rcases Relation.ReflTransGen.cases_head hn with heq | ⟨u, hu, hun⟩
      · exact hshort n heq
      · exact (hparts u hu).isShort n hun

namespace IsWritable

variable {v w : Value}

theorem of_mem_parts (h : v.IsWritable) (hw : w ∈ v.parts) : w.IsWritable :=
  (isWritable_iff.1 h).2.2 w hw

theorem scalarText? (h : v.IsWritable) (hscalar : v.isScalar = true) :
    v.scalarText?.isSome = true := by
  cases v with
  | int n =>
    have hshort : ¬ digitLimit < (Nat.toDigits 10 n.natAbs).length :=
      Nat.not_lt.2 (h.isShort n .refl)
    simp [Value.scalarText?, integerText?, hshort]
  | null | bool _ | float _ | str _ | bytes _ | date _ | moment _ => rfl
  | _ => cases hscalar

end IsWritable

/-! ## Collections of a pool -/

theorem isSome_mapM {α β : Type} {f : α → Option β} {xs : List α}
    (h : ∀ x ∈ xs, (f x).isSome = true) : (xs.mapM f).isSome = true := by
  induction xs with
  | nil => rfl
  | cons x xs ih =>
    obtain ⟨y, hy⟩ := Option.isSome_iff_exists.1 (h x List.mem_cons_self)
    obtain ⟨ys, hys⟩ := Option.isSome_iff_exists.1
      (ih fun z hz => h z (List.mem_cons_of_mem x hz))
    simp [List.mapM_cons, hy, hys]

/-- Two texts make one. -/
theorem isSome_both {α β γ : Type} {x : Option α} {y : Option β} (f : α → β → γ)
    (hx : x.isSome = true) (hy : y.isSome = true) :
    (x >>= fun a => y >>= fun b => pure (f a b)).isSome = true := by
  obtain ⟨a, rfl⟩ := Option.isSome_iff_exists.1 hx
  obtain ⟨b, rfl⟩ := Option.isSome_iff_exists.1 hy
  rfl

/-- There are no more different numbers below a bound than the bound says. -/
theorem length_le_of_nodup {ns : List Nat} {bound : Nat} (hnodup : ns.Nodup)
    (hbound : ∀ n ∈ ns, n < bound) : ns.length ≤ bound := by
  have hsubset : ns ⊆ List.range bound := fun n hn => List.mem_range.2 (hbound n hn)
  simpa using (List.subperm_of_subset hnodup hsubset).length_le

section Pooled

variable {pool : Array Value} {fuel n : Nat} {within : List Nat}

/-- The text of a part of a collection of a pool. -/
def partText? (pool : Array Value) (fuel : Nat) (within : List Nat) : Value → Option String
  | link m => pooledText? pool fuel within m
  | v => v.scalarText?

/-- A collection can be written if its parts can. One that is being written already is not entered
again, unless it is a set. -/
theorem isSome_pooledText?_succ {c : Value} (hc : pool[n]? = some c)
    (hcollection : c.isPoolCollection = true)
    (hparts : ∀ v ∈ c.parts, v.isScalar = true ∨ n ∉ within →
      (partText? pool fuel (n :: within) v).isSome = true) :
    (pooledText? pool (fuel + 1) within n).isSome = true := by
  cases c with
  | list items | tuple items =>
    simp only [pooledText?, hc]
    split
    · rfl
    · next hnew =>
      rw [Option.isSome_map]
      exact isSome_mapM fun v hv => hparts v hv (Or.inr (by simpa using hnew))
  | set items =>
    simp only [pooledText?, hc, Option.isSome_map]
    exact isSome_mapM fun v hv => hparts v hv (Or.inl (List.all_eq_true.1 hcollection v hv))
  | map entries =>
    simp only [pooledText?, hc]
    split
    · rfl
    · next hnew =>
      rw [Option.isSome_map]
      refine isSome_mapM fun e he => ?_
      have hpart : ∀ v ∈ [e.1, e.2], (partText? pool fuel (n :: within) v).isSome = true :=
        fun v hv => hparts v (List.mem_flatMap.2 ⟨e, he, hv⟩) (Or.inr (by simpa using hnew))
      exact isSome_both entryText (hpart e.1 (by simp)) (hpart e.2 (by simp))
  | _ => cases hcollection

/-- The count suffices if it exceeds the number of collections that are not being written yet. -/
theorem isSome_pooledText? (h : (pooled pool n).IsWritable) (hnodup : within.Nodup)
    (hbound : ∀ k ∈ within, k < pool.size) (hcount : pool.size < fuel + within.length) :
    (pooledText? pool fuel within n).isSome = true := by
  induction fuel generalizing n within with
  | zero =>
    have hlength := length_le_of_nodup hnodup hbound
    omega
  | succ fuel ih =>
    obtain ⟨c, hc, hcollection⟩ := isPlaced_pooled_iff.1 (h.isPlaced _ .refl)
    refine isSome_pooledText?_succ hc hcollection fun v hpart hv => ?_
    have hwritable : (v.outside pool).IsWritable := by
      apply h.of_mem_parts
      rw [parts_pooled hc hcollection]
      exact List.mem_map_of_mem hpart
    cases v with
    | link m =>
      have hnew : n ∉ within := hv.resolve_left Bool.false_ne_true
      have hn : n < pool.size := (Array.getElem?_eq_some_iff.1 hc).1
      refine ih hwritable (List.nodup_cons.2 ⟨hnew, hnodup⟩)
        (List.forall_mem_cons.2 ⟨hn, hbound⟩) ?_
      rw [List.length_cons]
      omega
    | _ => exact hwritable.scalarText? (isPoolPart_of_mem_parts hcollection hpart)

end Pooled

/-! ## Values -/

mutual

theorem isSome_quoted? : (v : Value) → v.IsWritable → v.quoted?.isSome = true
  | list items, h | tuple items, h | set items, h => by
    rw [quoted?, Option.isSome_map]
    exact isSome_quotedItems? items fun v hv => h.of_mem_parts hv
  | map entries, h => by
    rw [quoted?, Option.isSome_map]
    refine isSome_quotedEntries? entries fun e he => ⟨h.of_mem_parts ?_, h.of_mem_parts ?_⟩
    · exact List.mem_flatMap.2 ⟨e, he, by simp⟩
    · exact List.mem_flatMap.2 ⟨e, he, by simp⟩
  | record attributes, h => by
    rw [quoted?, Option.isSome_map]
    refine isSome_quotedAttributes? attributes fun a ha hname => h.of_mem_parts ?_
    exact List.mem_map_of_mem (List.mem_filter.2 ⟨ha, by simp [hname]⟩)
  | markers left right, h => by
    rw [quoted?]
    exact isSome_both _ (isSome_quoted? left (h.of_mem_parts (by simp [parts, expose])))
      (isSome_quoted? right (h.of_mem_parts (by simp [parts, expose])))
  | options global left right strict weak, h => by
    have hpart : ∀ v ∈ [global, left, right, strict, weak], v.IsWritable :=
      fun v hv => h.of_mem_parts hv
    obtain ⟨g, hg⟩ := Option.isSome_iff_exists.1 (isSome_quoted? global (hpart _ (by simp)))
    obtain ⟨l, hl⟩ := Option.isSome_iff_exists.1 (isSome_quoted? left (hpart _ (by simp)))
    obtain ⟨r, hr⟩ := Option.isSome_iff_exists.1 (isSome_quoted? right (hpart _ (by simp)))
    obtain ⟨s, hs⟩ := Option.isSome_iff_exists.1 (isSome_quoted? strict (hpart _ (by simp)))
    obtain ⟨w, hw⟩ := Option.isSome_iff_exists.1 (isSome_quoted? weak (hpart _ (by simp)))
    simp [quoted?, hg, hl, hr, hs, hw]
  | pooled pool n, h => by
    rw [quoted?]
    exact isSome_pooledText? h List.nodup_nil (by simp) (by simp)
  | null, h | bool _, h | int _, h | float _, h | str _, h | bytes _, h | date _, h | moment _, h =>
    h.scalarText? rfl
  | link _, h => absurd (h.isPlaced _ .refl) Bool.false_ne_true

theorem isSome_quotedItems? : (items : List Value) → (∀ v ∈ items, v.IsWritable) →
    (quotedItems? items).isSome = true
  | [], _ => rfl
  | v :: items, h => by
    rw [quotedItems?]
    exact isSome_both _ (isSome_quoted? v (h v List.mem_cons_self))
      (isSome_quotedItems? items fun w hw => h w (List.mem_cons_of_mem v hw))

theorem isSome_quotedEntries? : (entries : List (Value × Value)) →
    (∀ e ∈ entries, e.1.IsWritable ∧ e.2.IsWritable) → (quotedEntries? entries).isSome = true
  | [], _ => rfl
  | (k, v) :: entries, h => by
    obtain ⟨hkey, hvalue⟩ := h (k, v) List.mem_cons_self
    obtain ⟨s, hs⟩ := Option.isSome_iff_exists.1 (isSome_quoted? k hkey)
    obtain ⟨t, ht⟩ := Option.isSome_iff_exists.1 (isSome_quoted? v hvalue)
    obtain ⟨rest, hrest⟩ := Option.isSome_iff_exists.1
      (isSome_quotedEntries? entries fun e he => h e (List.mem_cons_of_mem _ he))
    simp [quotedEntries?, hs, ht, hrest]

theorem isSome_quotedAttributes? : (attributes : List (String × Value)) →
    (∀ a ∈ attributes, a.1 ≠ "" → a.2.IsWritable) → (quotedAttributes? attributes).isSome = true
  | [], _ => rfl
  | (k, v) :: attributes, h => by
    have hrest := isSome_quotedAttributes? attributes fun a ha => h a (List.mem_cons_of_mem _ ha)
    rw [quotedAttributes?]
    split
    · exact hrest
    · next hname =>
      have hv : v.IsWritable := h (k, v) List.mem_cons_self (by simpa using hname)
      exact isSome_both _ (isSome_quoted? v hv) hrest

end

/-- A value has a text if no integer in it is too long. -/
theorem exists_text {v : Value} (h : v.IsWritable) : ∃ s, v.text = some s := by
  rw [← Option.isSome_iff_exists]
  unfold text
  split
  · rfl
  · rfl
  · rfl
  · exact isSome_quoted? v h

/-! ## Integers that are too long -/

/-- An integer of more than 4300 digits stands in the value. -/
def HasLongInteger (v : Value) : Prop :=
  ∃ n : Int, 4300 < (Nat.toDigits 10 n.natAbs).length ∧ (int n).IsIn v

namespace IsWhole

variable {v : Value}

theorem isWritable (h : v.IsWhole) (hshort : ¬ v.HasLongInteger) : v.IsWritable :=
  ⟨h, fun n hn => Nat.not_lt.1 fun hlong => hshort ⟨n, hlong, hn⟩⟩

/-- Only an integer that is too long keeps a value from having a text. -/
theorem hasLongInteger_of_text_eq_none (h : v.IsWhole) (htext : v.text = none) :
    v.HasLongInteger := by
  by_contra hshort
  obtain ⟨s, hs⟩ := exists_text (h.isWritable hshort)
  rw [htext] at hs
  cases hs

end IsWhole

end Value
end FieldPattern
