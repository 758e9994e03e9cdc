import FieldPattern.Proofs.Document.Building
import FieldPattern.Proofs.Value.Plain

/-!
# The values of documents are plain

A document has a plain value, if it has one (`isPlain_of_valueOf`). What carries this through the
work on a graph is that everything found so far is plain, both the values of nodes and the
collections of the pool. A computation *keeps* this if, whenever it succeeds, all is plain that it
leaves, and so is what it returns. Work on nodes does not touch the values at all.
-/

namespace FieldPattern.Document

/-- Everything that was found so far is plain. -/
structure Builder.IsPlain (b : Builder) : Prop where
  values : ∀ (n : Nat) (v : Value), b.values[n]? = some (some v) → v.IsPlain
  pool : ∀ v ∈ b.pool, Value.IsPlain v

theorem Builder.IsPlain.of_differsInNodes {b b' : Builder} (hb : b.IsPlain)
    (h : Building.DiffersInNodes b b') : b'.IsPlain := by
  rw [h.eq]
  exact ⟨hb.values, hb.pool⟩

namespace Building

variable {α β : Type}

/-- Where all was plain, all is plain again, and what is returned has the property. -/
def Keeps (x : Building α) (Q : α → Prop) : Prop :=
  ∀ b a b', b.IsPlain → x.run b = .ok (a, b') → b'.IsPlain ∧ Q a

namespace Keeps

variable {x : Building α} {Q : α → Prop} {R : β → Prop}

theorem pure {a : α} (h : Q a) : (pure a : Building α).Keeps Q :=
  Leads.pure fun _ hb => ⟨hb, h⟩

theorem throw (e : Fault) : (throw e : Building α).Keeps Q :=
  Leads.throw e

theorem bind {f : α → Building β} (hx : x.Keeps Q) (hf : ∀ a, Q a → (f a).Keeps R) :
    (x >>= f).Keeps R :=
  Leads.bind hx fun a => Leads.assuming (hf a)

theorem get : (get : Building Builder).Keeps Builder.IsPlain :=
  Leads.get.mono (fun _ hb => hb) fun _ _ ⟨hb, heq⟩ => ⟨hb, heq ▸ hb⟩

theorem modify {f : Builder → Builder} (h : ∀ b, b.IsPlain → (f b).IsPlain) :
    (modify f : Building Unit).Keeps fun _ => True :=
  Leads.modify fun b hb => ⟨h b hb, trivial⟩

theorem mapM {f : α → Building β} (h : ∀ a, (f a).Keeps R) (xs : List α) :
    (xs.mapM f).Keeps fun ys => ∀ y ∈ ys, R y := by
  have hstep : ∀ (ys : List β) (a : α), Leads (fun b => b.IsPlain ∧ ∀ y ∈ ys, R y) (f a)
      fun y b => b.IsPlain ∧ ∀ z ∈ ys ++ [y], R z := by
    intro ys a
    refine Leads.assuming fun hys => Leads.mono (h a) (fun _ hb => hb) fun y b ⟨hb, hy⟩ => ⟨hb, ?_⟩
    simpa [or_imp, forall_and] using And.intro hys hy
  exact (Leads.mapM (J := fun ys b => b.IsPlain ∧ ∀ y ∈ ys, R y) hstep xs).mono
    (fun b hb => ⟨hb, by simp⟩) fun _ _ hb => hb

theorem foldlM {f : β → α → Building β} (h : ∀ c a, R c → (f c a).Keeps R) {init : β}
    (hinit : R init) (xs : List α) : (xs.foldlM f init).Keeps R :=
  (Leads.foldlM (fun c a => Leads.assuming (h c a)) init xs).mono (fun _ hb => ⟨hb, hinit⟩)
    fun _ _ hb => hb

theorem forM {f : α → Building PUnit} (h : ∀ a, (f a).Keeps fun _ => True) (xs : List α) :
    (xs.forM f).Keeps fun _ => True := by
  have hstep : ∀ a, Leads Builder.IsPlain (f a) fun _ => Builder.IsPlain :=
    fun a => Leads.mono (h a) (fun _ hb => hb) fun _ _ hb => hb.1
  exact (Leads.forM (I := fun _ => Builder.IsPlain) (fun a _ => hstep a) xs).mono
    (fun _ hb => hb) fun _ _ hb => ⟨hb, trivial⟩

end Keeps

theorem WorksOnNodes.keeps {x : Building α} (h : x.WorksOnNodes) : x.Keeps fun _ => True :=
  (h.leads fun _ _ hb hnodes => hb.of_differsInNodes hnodes).mono (fun _ hb => hb)
    fun _ _ hb => ⟨hb, trivial⟩

theorem scalar_keeps (n : Nat) : (scalar n).Keeps Value.IsPlain :=
  (scalar_leads (fun _ _ hb hnodes => hb.of_differsInNodes hnodes) n).mono (fun _ hb => hb)
    fun _ _ ⟨hb, hv⟩ => ⟨hb, Value.IsPlain.of_isScalar hv⟩

/-! ## Collections -/

theorem setValue_isPlain {b : Builder} (hb : b.IsPlain) {v : Value} (hv : v.IsPlain) (n : Nat)
    (waiting : List Nat) : { b with
      values := b.values.setIfInBounds n (some v), waiting := waiting : Builder }.IsPlain where
  values m w hw := by
    rcases eq_or_found_of_setIfInBounds hw with ⟨-, rfl⟩ | hw
    · exact hv
    · exact hb.values m w hw
  pool := hb.pool

/-- The value of a node is plain: it was found before, or it is a number, or a scalar. -/
theorem value_keeps (n : Nat) : (value n).Keeps Value.IsPlain := by
  refine Keeps.get.bind fun b hb => ?_
  split
  · next v hv =>
    exact Keeps.pure (hb.values n v (getD_none_eq_some_iff.1 hv))
  · refine (tag_worksOnNodes n).keeps.bind fun t _ => ?_
    dsimp only
    have hrest : ∀ (waiting : Builder → List Nat) (v : Value), v.IsPlain → (do
        modify fun b =>
          { b with values := b.values.setIfInBounds n (some v), waiting := waiting b }
        return v : Building Value).Keeps Value.IsPlain := fun waiting v hv =>
      (Keeps.modify fun b hb => setValue_isPlain hb hv n _).bind fun _ _ => Keeps.pure hv
    split
    · exact (Keeps.pure (Value.IsPlain.link n)).bind (hrest _)
    · exact (scalar_keeps n).bind (hrest _)

theorem key_keeps (n : Nat) : (key n).Keeps fun k => k.value.IsPlain := by
  refine (tag_worksOnNodes n).keeps.bind fun t _ => ?_
  dsimp only
  split
  · exact Keeps.bind (Q := fun _ => False) (Keeps.throw _) fun _ h => h.elim
  · refine (value_keeps n).bind fun v hv => ?_
    split
    · refine Keeps.get.bind fun b _ => ?_
      refine (scalarText_worksOnNodes _ n).keeps.bind fun text _ => Keeps.pure ?_
      split <;> exact hv
    · exact Keeps.pure hv

/-- All keys and values of entries that were found are plain. -/
def ArePlain (entries : List (Key × Value)) : Prop :=
  ∀ e ∈ entries, e.1.value.IsPlain ∧ e.2.IsPlain

theorem ArePlain.put {entries : List (Key × Value)} (h : ArePlain entries) {k : Key} {v : Value}
    (hk : k.value.IsPlain) (hv : v.IsPlain) : ArePlain (put entries k v) :=
  forall_mem_put (p := fun k => k.value.IsPlain) h hk hv

theorem mapping_keeps (n : Nat) :
    (mapping n).Keeps fun entries => ∀ e ∈ entries, e.1.IsPlain ∧ e.2.IsPlain := by
  refine Keeps.get.bind fun b _ => (flatten_worksOnNodes b.merges n).keeps.bind fun entries _ => ?_
  refine (Keeps.foldlM (R := ArePlain) ?_ (by simp [ArePlain]) entries).bind fun found hfound => ?_
  · intro found e hfound
    exact (key_keeps e.1).bind fun k hk => (value_keeps e.2).bind fun v hv =>
      Keeps.pure (hfound.put hk hv)
  · refine Keeps.pure fun e he => ?_
    obtain ⟨e, hmem, rfl⟩ := List.mem_map.1 he
    exact hfound e hmem

theorem pair_keeps (n : Nat) : (pair n).Keeps Value.IsPlain := by
  refine (entries?_worksOnNodes n).keeps.bind fun entries _ => ?_
  split
  · next k v =>
    refine (value_keeps k).bind fun first hfirst => (value_keeps v).bind fun second hsecond => ?_
    refine Keeps.get.bind fun b _ => Keeps.bind (Keeps.modify fun b hb => ?_) fun _ _ =>
      Keeps.pure (Value.IsPlain.link _)
    refine ⟨hb.values, fun w hw => ?_⟩
    rcases Array.mem_push.1 hw with hw | rfl
    · exact hb.pool w hw
    · exact Value.IsPlain.tuple (by simp [hfirst, hsecond])
  · exact Keeps.throw _

theorem content_keeps (n : Nat) : (content n).Keeps Value.IsPlain := by
  refine (node_worksOnNodes n).keeps.bind fun x _ => ?_
  split
  · exact (Keeps.mapM value_keeps _).bind fun items h => Keeps.pure (Value.IsPlain.list h)
  · exact (mapping_keeps n).bind fun entries h =>
      Keeps.pure (Value.IsPlain.map (fun e he => (h e he).1) fun e he => (h e he).2)
  · refine (mapping_keeps n).bind fun entries h => Keeps.pure (Value.IsPlain.set ?_)
    intro v hv
    obtain ⟨e, he, rfl⟩ := List.mem_map.1 (mem_of_mem_shownOrder hv)
    exact (h e he).1
  · exact (Keeps.mapM pair_keeps _).bind fun items h => Keeps.pure (Value.IsPlain.list h)
  · exact (Keeps.mapM pair_keeps _).bind fun items h => Keeps.pure (Value.IsPlain.list h)
  · exact Keeps.throw _

theorem settle_keeps (n : Nat) : (settle n).Keeps fun _ => True := by
  refine (content_keeps n).bind fun v hv => Keeps.modify fun b hb => ⟨hb.values, ?_⟩
  intro w hw
  rcases Array.mem_or_eq_of_mem_setIfInBounds hw with hw | rfl
  · exact hb.pool w hw
  · exact hv

theorem settleAll_keeps (fuel : Nat) : (settleAll fuel).Keeps fun _ => True := by
  induction fuel with
  | zero => exact Keeps.pure trivial
  | succ fuel ih =>
    rw [settleAll]
    refine Keeps.get.bind fun b _ => ?_
    dsimp only
    split
    · refine Keeps.bind (Keeps.modify fun b hb => ?_) fun _ _ =>
        (Keeps.forM settle_keeps _).bind fun _ _ => ih
      exact ⟨hb.values, hb.pool⟩
    · exact Keeps.pure trivial

end Building

/-! ## Documents -/

theorem Builder.start_isPlain (nodes : Array Node) : (Builder.start nodes).IsPlain where
  values n v h := by
    rw [Builder.start, Array.getElem?_replicate] at h
    split at h <;> cases h
  pool v hv := by
    rw [Array.eq_of_mem_replicate hv]
    exact Value.IsPlain.null

theorem Building.Keeps.isPlain_outside {x : Building Value} (hx : x.Keeps Value.IsPlain)
    {b : Builder} (hb : b.IsPlain) {v : Value}
    (h : (do let r ← x.run b; return r.1.outside r.2.pool) = Except.ok v) : v.IsPlain := by
  obtain ⟨r, hrun, h⟩ := bind_eq_ok_iff.1 h
  cases h
  obtain ⟨hb', hv⟩ := hx b r.1 r.2 hb hrun
  exact hv.outside hb'.pool

theorem Graph.isPlain_of_value {g : Graph} {v : Value} (h : g.value = .ok v) : v.IsPlain := by
  have hkeeps : (do
      let v ← Building.value g.root
      Building.settleAll (g.nodes.size + 1)
      return v : Building Value).Keeps Value.IsPlain :=
    (Building.value_keeps g.root).bind fun v hv =>
      (Building.settleAll_keeps _).bind fun _ _ => Building.Keeps.pure hv
  exact hkeeps.isPlain_outside (Builder.start_isPlain g.nodes) h

/-- The value of a document is plain. -/
theorem isPlain_of_valueOf {s : Source} {v : Value} (h : valueOf s = .ok v) : v.IsPlain := by
  obtain ⟨g, -, h⟩ := bind_eq_ok_iff.1 h
  cases g with
  | none =>
    cases h
    exact Value.IsPlain.null
  | some g => exact Graph.isPlain_of_value h

theorem isPlain_of_ofFeed {feed : Text.Feed} {v : Value} (h : ofFeed feed = .ok v) : v.IsPlain := by
  obtain ⟨s, -, hvalue⟩ := bind_eq_ok_iff.1 h
  exact isPlain_of_valueOf hvalue

end FieldPattern.Document
