import FieldPattern.Proofs.Document.Building
import FieldPattern.Proofs.Value.Writable

/-!
# The values of documents are placed

In the value of a document every number is that of a collection (`isWhole_of_ofFeed`). So whatever
has no text in it has an integer that is too long, also where it contains itself
(`Value.IsWhole.hasLongInteger_of_text_eq_none`).

A number is given out when a node is met, and its collection is found later. Until then the number
waits, so what holds throughout the work is that the collection of a number was found, or waits, or
is pending in the level that is worked through (`Meets`). At the end nothing waits any more. This
needs that there are enough levels: no node waits twice, so each level but the last takes at least
one node from those that have not waited yet, and there are more levels than nodes.
-/

namespace FieldPattern.Document

open Building

namespace Builder

/-- The collection with the number was found, or it will be. -/
def Meets (b : Builder) (pending : List Nat) (n : Nat) : Prop :=
  n ∈ pending ∨ n ∈ b.waiting ∨ (Value.pooled b.pool n).isPlaced = true

/-- The value is a scalar, or the number of such a collection. -/
def Reaches (b : Builder) (pending : List Nat) (v : Value) : Prop :=
  v.isScalar = true ∨ ∃ n, v = .link n ∧ b.Meets pending n

/-- Whatever was given out reaches its collection. The numbers in `done` have waited before, those
in `pending` are of the level that is worked through, and `promised` was returned so far. -/
structure IsClosed (nodes : Array Node) (done pending : List Nat) (promised : List Value)
    (b : Builder) : Prop where
  alike : Node.AreAlike nodes b.nodes
  size_values : b.values.size = nodes.size
  size_pool : nodes.size ≤ b.pool.size
  values : ∀ (n : Nat) (v : Value), b.values[n]? = some (some v) → b.Reaches pending v
  scalars : ∀ (n : Nat) (v : Value), b.values[n]? = some (some v) →
    Node.isCollectionAt nodes n = false → v.isScalar = true
  pool : ∀ c ∈ b.pool, c.isPoolCollection = true → ∀ v ∈ c.parts, b.Reaches pending v
  promised : ∀ v ∈ promised, b.Reaches pending v
  nodup : (done ++ b.waiting).Nodup
  met : ∀ n ∈ done ++ b.waiting, n < nodes.size ∧ ∃ v, b.values[n]? = some (some v)
  pending_subset : pending ⊆ done

variable {nodes : Array Node} {done pending : List Nat} {promised : List Value} {b b' : Builder}
  {v : Value}

theorem Reaches.isPoolPart (h : b.Reaches pending v) : v.isPoolPart = true := by
  rcases h with hscalar | ⟨n, rfl, -⟩
  · exact Value.isPoolPart_of_isScalar hscalar
  · rfl

theorem Reaches.mono {pending' : List Nat} (h : b.Reaches pending v)
    (hmeets : ∀ n, b.Meets pending n → b'.Meets pending' n) : b'.Reaches pending' v := by
  rcases h with hscalar | ⟨n, rfl, hn⟩
  · exact Or.inl hscalar
  · exact Or.inr ⟨n, rfl, hmeets n hn⟩

namespace IsClosed

theorem of_differsInNodes (h : b.IsClosed nodes done pending promised)
    (hnodes : DiffersInNodes b b') : b'.IsClosed nodes done pending promised := by
  have halike := h.alike.trans hnodes.nodes
  rw [hnodes.eq]
  exact { h with alike := halike }

theorem promise (h : b.IsClosed nodes done pending promised) {more : List Value}
    (hmore : ∀ v ∈ more, b.Reaches pending v) : b.IsClosed nodes done pending more :=
  { h with promised := hmore }

/-- Less may be promised. -/
theorem of_subset (h : b.IsClosed nodes done pending promised) {less : List Value}
    (hless : less ⊆ promised) : b.IsClosed nodes done pending less :=
  h.promise fun v hv => h.promised v (hless hv)

theorem length_le (h : b.IsClosed nodes done pending promised) :
    (done ++ b.waiting).length ≤ nodes.size :=
  Value.length_le_of_nodup h.nodup fun n hn => (h.met n hn).1

/-! ### What the work changes -/

/-- A value is found. It is promised from then on. -/
theorem setValue (h : b.IsClosed nodes done pending promised) {n : Nat} {waiting : List Nat}
    (hwaiting : b.waiting ⊆ waiting) (hnodup : (done ++ waiting).Nodup)
    (hmet : ∀ m ∈ done ++ waiting, m ∈ done ++ b.waiting ∨ m = n ∧ n < nodes.size)
    (hscalar : Node.isCollectionAt nodes n = false → v.isScalar = true)
    (hv : v.isScalar = true ∨ v = .link n ∧ n ∈ waiting) :
    ({ b with values := b.values.setIfInBounds n (some v), waiting := waiting } : Builder).IsClosed
      nodes done pending (v :: promised) := by
  have hmeets : ∀ m, b.Meets pending m →
      ({ b with values := b.values.setIfInBounds n (some v), waiting := waiting } :
        Builder).Meets pending m := by
    intro m hm
    exact hm.imp_right fun hm => hm.imp_left fun hm => hwaiting hm
  have hreaches : ({ b with values := b.values.setIfInBounds n (some v), waiting := waiting } :
      Builder).Reaches pending v :=
    hv.imp_right fun ⟨heq, hn⟩ => ⟨n, heq, Or.inr (Or.inl hn)⟩
  refine { h with
    size_values := ?_, values := ?_, scalars := ?_, pool := ?_, promised := ?_, nodup := hnodup,
    met := ?_ }
  · rw [← h.size_values, Array.size_setIfInBounds]
  · intro m w hw
    rcases eq_or_found_of_setIfInBounds hw with ⟨-, rfl⟩ | hw
    · exact hreaches
    · exact (h.values m w hw).mono hmeets
  · intro m w hw hm
    rcases eq_or_found_of_setIfInBounds hw with ⟨rfl, rfl⟩ | hw
    · exact hscalar hm
    · exact h.scalars m w hw hm
  · exact fun c hc hcollection w hw => (h.pool c hc hcollection w hw).mono hmeets
  · exact List.forall_mem_cons.2 ⟨hreaches, fun w hw => (h.promised w hw).mono hmeets⟩
  · intro m hm
    rcases hmet m hm with hm | ⟨rfl, hlt⟩
    · exact ⟨(h.met m hm).1, exists_found_setIfInBounds (h.met m hm).2 n v⟩
    · have hfound : m < b.values.size := by rwa [h.size_values]
      exact ⟨hlt, v, by simp [hfound]⟩

theorem setScalar (h : b.IsClosed nodes done pending promised) (hv : v.isScalar = true) (n : Nat) :
    ({ b with values := b.values.setIfInBounds n (some v) } : Builder).IsClosed nodes done pending
      (v :: promised) :=
  h.setValue (List.Subset.refl _) h.nodup (fun _ hm => Or.inl hm) (fun _ => hv) (Or.inl hv)

/-- A collection waits from the time when it is met. -/
theorem setLink (h : b.IsClosed nodes done pending promised) {n : Nat}
    (hn : Node.isCollectionAt nodes n = true) (hnew : ∀ v, b.values[n]? ≠ some (some v)) :
    ({ b with values := b.values.setIfInBounds n (some (.link n)), waiting := n :: b.waiting } :
      Builder).IsClosed nodes done pending (.link n :: promised) := by
  have hnotMem : n ∉ done ++ b.waiting := fun hmem => by
    obtain ⟨v, hv⟩ := (h.met n hmem).2
    exact hnew v hv
  refine h.setValue (List.subset_cons_self _ _) ?_ ?_ ?_ (Or.inr ⟨rfl, List.mem_cons_self⟩)
  · exact List.perm_middle.nodup_iff.2 (List.nodup_cons.2 ⟨hnotMem, h.nodup⟩)
  · intro m hm
    have hm' : m = n ∨ m ∈ done ++ b.waiting := by simpa [or_left_comm] using hm
    exact hm'.symm.imp_right fun heq => ⟨heq, Node.lt_size_of_isCollectionAt hn⟩
  · simp [hn]

/-- The pool changes, where nothing that was met is lost. -/
theorem setPool (h : b.IsClosed nodes done pending promised) {pool : Array Value}
    {pending' : List Nat} (hsize : b.pool.size ≤ pool.size) (hpending : pending' ⊆ pending)
    (hmeets : ∀ m, b.Meets pending m → ({ b with pool := pool } : Builder).Meets pending' m)
    (hpool : ∀ c ∈ pool, c ∈ b.pool ∨ ∀ v ∈ c.parts, b.Reaches pending v) :
    ({ b with pool := pool } : Builder).IsClosed nodes done pending' promised where
  alike := h.alike
  size_values := h.size_values
  size_pool := Nat.le_trans h.size_pool hsize
  values m w hw := (h.values m w hw).mono hmeets
  scalars := h.scalars
  pool c hc hcollection w hw := by
    rcases hpool c hc with hold | hnew
    · exact (h.pool c hold hcollection w hw).mono hmeets
    · exact (hnew w hw).mono hmeets
  promised w hw := (h.promised w hw).mono hmeets
  nodup := h.nodup
  met := h.met
  pending_subset := List.Subset.trans hpending h.pending_subset

/-- One more collection at the end of the pool. -/
theorem push (h : b.IsClosed nodes done pending promised) {c : Value}
    (hparts : ∀ v ∈ c.parts, b.Reaches pending v) :
    ({ b with pool := b.pool.push c } : Builder).IsClosed nodes done pending promised := by
  refine h.setPool (by simp) (List.Subset.refl _) ?_ ?_
  · refine fun m hm => hm.imp_right fun hm => hm.imp_right fun hm => ?_
    obtain ⟨d, hd, hcollection⟩ := Value.isPlaced_pooled_iff.1 hm
    have hlt : m < b.pool.size := (Array.getElem?_eq_some_iff.1 hd).1
    refine Value.isPlaced_pooled_iff.2 ⟨d, ?_, hcollection⟩
    simp [Array.getElem?_push, Nat.ne_of_lt hlt, hd]
  · intro d hd
    rcases Array.mem_push.1 hd with hd | rfl
    · exact Or.inl hd
    · exact Or.inr hparts

/-- A pending collection is found. -/
theorem setCollection {n : Nat} {rest : List Nat}
    (h : b.IsClosed nodes done (n :: rest) promised) {c : Value} (hc : c.isPoolCollection = true)
    (hparts : ∀ v ∈ c.parts, b.Reaches (n :: rest) v) :
    ({ b with pool := b.pool.setIfInBounds n c } : Builder).IsClosed nodes done rest promised := by
  have hmem : n ∈ done ++ b.waiting := List.mem_append_left _ (h.pending_subset List.mem_cons_self)
  have hn : n < b.pool.size := Nat.lt_of_lt_of_le (h.met n hmem).1 h.size_pool
  refine h.setPool (by simp) (List.subset_cons_self _ _) ?_ ?_
  · intro m hm
    by_cases heq : n = m
    · subst heq
      exact Or.inr (Or.inr (Value.isPlaced_pooled_iff.2 ⟨c, by simp [hn], hc⟩))
    · rcases hm with hm | hm | hm
      · exact Or.inl ((List.mem_cons.1 hm).resolve_left (Ne.symm heq))
      · exact Or.inr (Or.inl hm)
      · exact Or.inr (Or.inr (by simpa [Value.isPlaced, heq] using hm))
  · intro d hd
    rcases Array.mem_or_eq_of_mem_setIfInBounds hd with hd | rfl
    · exact Or.inl hd
    · exact Or.inr hparts

/-- A level begins: all that waits is pending now. -/
theorem startLevel (h : b.IsClosed nodes done [] promised) :
    ({ b with waiting := [] } : Builder).IsClosed nodes (done ++ b.waiting) b.waiting.reverse
      promised := by
  have hmeets : ∀ m, b.Meets [] m →
      ({ b with waiting := [] } : Builder).Meets b.waiting.reverse m := by
    intro m hm
    rcases hm with hm | hm | hm
    · cases hm
    · exact Or.inl (List.mem_reverse.2 hm)
    · exact Or.inr (Or.inr hm)
  exact {
    alike := h.alike
    size_values := h.size_values
    size_pool := h.size_pool
    values := fun m w hw => (h.values m w hw).mono hmeets
    scalars := h.scalars
    pool := fun c hc hcollection w hw => (h.pool c hc hcollection w hw).mono hmeets
    promised := fun w hw => (h.promised w hw).mono hmeets
    nodup := by simpa using h.nodup
    met := by simpa using h.met
    pending_subset := fun m hm => List.mem_append_right _ (List.mem_reverse.1 hm) }

end IsClosed
end Builder

/-! ## Steps of the work -/

namespace Building

variable {nodes : Array Node} {done pending : List Nat} {promised : List Value}

theorem WorksOnNodes.leads_isClosed {α : Type} {x : Building α} (h : x.WorksOnNodes) :
    Leads (Builder.IsClosed nodes done pending promised) x fun _ =>
      Builder.IsClosed nodes done pending promised :=
  h.leads fun _ _ hb hnodes => hb.of_differsInNodes hnodes

/-- A value is given out, and it is a scalar unless the node is a collection. -/
theorem value_leads (n : Nat) :
    Leads (Builder.IsClosed nodes done pending promised) (value n) fun v b =>
      b.IsClosed nodes done pending (v :: promised) ∧
        (Node.isCollectionAt nodes n = false → v.isScalar = true) := by
  refine Leads.get.bind fun b₀ => ?_
  split
  · next v hv =>
    have hfound := getD_none_eq_some_iff.1 hv
    refine Leads.pure ?_
    rintro b ⟨hb, rfl⟩
    exact ⟨hb.promise (List.forall_mem_cons.2 ⟨hb.values n v hfound, hb.promised⟩),
      hb.scalars n v hfound⟩
  · next hnone =>
    refine (tag_leads n).bind fun t => ?_
    by_cases ht : isCollection t = true
    · simp only [ht, if_true, pure_bind]
      refine Leads.bind (J := fun _ => _) (Leads.modify ?_) fun _ => Leads.pure fun _ hb => hb
      rintro b ⟨⟨hb, rfl⟩, htag⟩
      have hn : Node.isCollectionAt nodes n = true := by
        rw [← hb.alike.isCollectionAt n, Node.isCollectionAt, ← htag, ht]
      refine ⟨hb.setLink hn fun v hv => ?_, by simp [hn]⟩
      rw [getD_none_eq_some_iff.2 hv] at hnone
      cases hnone
    · simp only [ht, Bool.false_eq_true, if_false]
      have hscalar := scalar_leads (I := Builder.IsClosed nodes done pending promised)
        (fun _ _ hb hnodes => hb.of_differsInNodes hnodes) n
      refine Leads.bind (hscalar.mono (fun b hb => hb.1.1) fun _ _ hb => hb) fun v =>
        Leads.assuming fun hv => ?_
      exact Leads.bind (J := fun _ => _) (Leads.modify fun b hb => ⟨hb.setScalar hv n, fun _ => hv⟩)
        fun _ => Leads.pure fun _ hb => hb

/-- A key is a scalar, so nothing is promised by it. -/
theorem key_leads (n : Nat) :
    Leads (Builder.IsClosed nodes done pending promised) (key n) fun k b =>
      b.IsClosed nodes done pending promised ∧ k.value.isScalar = true := by
  refine (tag_leads n).bind fun t => ?_
  dsimp only
  split
  · exact Leads.bind (J := fun _ _ => False) (Leads.throw _) fun _ _ _ _ h => h.elim
  · next ht =>
    refine Leads.bind (J := fun v b => b.IsClosed nodes done pending promised ∧
      v.isScalar = true) ?_ fun v => Leads.assuming fun hv => ?_
    · rintro b v b' ⟨hb, rfl⟩ hrun
      obtain ⟨hb', hscalar⟩ := value_leads n b v b' hb hrun
      refine ⟨hb'.of_subset (List.subset_cons_self _ _), hscalar ?_⟩
      rw [← hb.alike.isCollectionAt n]
      exact Bool.eq_false_iff.2 ht
    · split
      · refine Leads.get.bind fun b₀ => ?_
        refine Leads.bind (J := fun _ => Builder.IsClosed nodes done pending promised)
          ((scalarText_worksOnNodes _ n).leads_isClosed.mono (fun _ hb => hb.1) fun _ _ hb => hb)
          fun text => ?_
        exact Leads.pure fun b hb => ⟨hb, by split <;> exact hv⟩
      · exact Leads.pure fun b hb => ⟨hb, hv⟩

/-- The keys of a mapping are scalars, and its values are given out. -/
theorem mapping_leads (n : Nat) :
    Leads (Builder.IsClosed nodes done pending promised) (mapping n) fun entries b =>
      b.IsClosed nodes done pending (entries.map (·.2) ++ promised) ∧
        ∀ e ∈ entries, e.1.isScalar = true := by
  refine Leads.bind (J := fun _ => Builder.IsClosed nodes done pending promised)
    (Leads.get.mono (fun _ hb => hb) fun _ _ hb => hb.1) fun b₀ => ?_
  refine (flatten_worksOnNodes b₀.merges n).leads_isClosed.bind fun entries => ?_
  refine Leads.bind (J := fun found b =>
    b.IsClosed nodes done pending (found.map (·.2) ++ promised) ∧
      ∀ e ∈ found, e.1.value.isScalar = true) ?_ fun found => ?_
  · refine (Leads.foldlM ?_ [] entries).mono (fun b hb => ⟨hb, by simp⟩) fun _ _ hb => hb
    refine fun found e => Leads.assuming fun hfound => ?_
    refine (key_leads e.1).bind fun k => Leads.assuming fun hk => ?_
    refine (value_leads e.2).bind fun v => Leads.assuming fun _ => Leads.pure fun b hb => ?_
    have hput := forall_mem_put (p := fun k => k.value.isScalar = true)
      (q := fun w => w ∈ v :: found.map (·.2))
      (fun e he => ⟨hfound e he, List.mem_cons_of_mem _ (List.mem_map_of_mem he)⟩) hk
      List.mem_cons_self
    refine ⟨hb.of_subset ?_, fun e he => (hput e he).1⟩
    intro w hw
    rcases List.mem_append.1 hw with hw | hw
    · obtain ⟨e, he, rfl⟩ := List.mem_map.1 hw
      exact List.mem_append_left promised (hput e he).2
    · exact List.mem_cons_of_mem _ (List.mem_append_right _ hw)
  · refine Leads.pure fun b ⟨hb, hfound⟩ => ⟨?_, ?_⟩
    · simpa [Function.comp_def] using hb
    · intro e he
      obtain ⟨e, hmem, rfl⟩ := List.mem_map.1 he
      exact hfound e hmem

/-- A pair is a collection at the end of the pool. -/
theorem pair_leads (n : Nat) :
    Leads (Builder.IsClosed nodes done pending promised) (pair n) fun v b =>
      b.IsClosed nodes done pending (v :: promised) := by
  refine (entries?_worksOnNodes n).leads_isClosed.bind fun entries => ?_
  split
  · next k v =>
    refine (value_leads k).bind fun first => Leads.assuming fun _ => ?_
    refine (value_leads v).bind fun second => Leads.assuming fun _ => ?_
    refine Leads.get.bind fun b₀ => ?_
    refine Leads.bind (J := fun _ => _) (Leads.modify ?_) fun _ => Leads.pure fun _ hb => hb
    rintro b ⟨hb, rfl⟩
    have hparts : ∀ w ∈ [first, second], b₀.Reaches pending w :=
      fun w hw => hb.promised w (by simp at hw ⊢; tauto)
    have hpushed := hb.push (c := .tuple [first, second]) hparts
    refine hpushed.promise (List.forall_mem_cons.2 ⟨Or.inr ⟨_, rfl, Or.inr (Or.inr ?_)⟩, ?_⟩)
    · refine Value.isPlaced_pooled_iff.2 ⟨.tuple [first, second], by simp, ?_⟩
      exact List.all_eq_true.2 fun w hw => (hparts w hw).isPoolPart
    · exact fun w hw => hpushed.promised w (List.mem_cons_of_mem _ (List.mem_cons_of_mem _ hw))
  · exact Leads.throw _

theorem mapM_leads {f : Nat → Building Value}
    (h : ∀ promised n, Leads (Builder.IsClosed nodes done pending promised) (f n) fun v b =>
      b.IsClosed nodes done pending (v :: promised)) (ns : List Nat) :
    Leads (Builder.IsClosed nodes done pending promised) (ns.mapM f) fun vs b =>
      b.IsClosed nodes done pending (vs ++ promised) := by
  refine Leads.mapM (J := fun vs b => b.IsClosed nodes done pending (vs ++ promised)) ?_ ns
  intro vs n
  refine (h _ n).mono (fun b hb => hb) fun v b hb => hb.of_subset fun w hw => ?_
  simpa [or_left_comm] using hw

theorem content_leads (n : Nat) :
    Leads (Builder.IsClosed nodes done pending promised) (content n) fun c b =>
      b.IsClosed nodes done pending promised ∧ c.isPoolCollection = true ∧
        ∀ v ∈ c.parts, b.Reaches pending v := by
  have hlist : ∀ vs : List Value, ∀ b : Builder, b.IsClosed nodes done pending (vs ++ promised) →
      b.IsClosed nodes done pending promised ∧ (Value.list vs).isPoolCollection = true ∧
        ∀ v ∈ (Value.list vs).parts, b.Reaches pending v := by
    intro vs b hb
    have hvs : ∀ v ∈ vs, b.Reaches pending v :=
      fun v hv => hb.promised v (List.mem_append_left _ hv)
    exact ⟨hb.of_subset (List.subset_append_right _ _),
      List.all_eq_true.2 fun v hv => (hvs v hv).isPoolPart, hvs⟩
  refine (node_worksOnNodes n).leads_isClosed.bind fun x => ?_
  split
  · have hvalue : ∀ promised n, Leads (Builder.IsClosed nodes done pending promised) (value n)
        fun v b => b.IsClosed nodes done pending (v :: promised) :=
      fun _ n => (value_leads n).mono (fun _ hb => hb) fun _ _ hb => hb.1
    exact (mapM_leads hvalue _).bind fun vs => Leads.pure (hlist vs)
  · refine (mapping_leads n).bind fun entries => Leads.pure fun b ⟨hb, hkeys⟩ => ?_
    have hparts : ∀ e ∈ entries, b.Reaches pending e.1 ∧ b.Reaches pending e.2 := fun e he =>
      ⟨Or.inl (hkeys e he), hb.promised _ (List.mem_append_left _ (List.mem_map_of_mem he))⟩
    refine ⟨hb.of_subset (List.subset_append_right _ _), List.all_eq_true.2 fun e he => ?_, ?_⟩
    · simp [(hparts e he).1.isPoolPart, (hparts e he).2.isPoolPart]
    · intro v hv
      obtain ⟨e, he, hv⟩ := List.mem_flatMap.1 hv
      rcases List.mem_cons.1 hv with rfl | hv
      · exact (hparts e he).1
      · rw [List.mem_singleton.1 hv]
        exact (hparts e he).2
  · refine (mapping_leads n).bind fun entries => Leads.pure fun b ⟨hb, hkeys⟩ => ?_
    have hitems : ∀ v ∈ Value.shownOrder (entries.map (·.1)), v.isScalar = true := by
      intro v hv
      obtain ⟨e, he, rfl⟩ := List.mem_map.1 (mem_of_mem_shownOrder hv)
      exact hkeys e he
    exact ⟨hb.of_subset (List.subset_append_right _ _), List.all_eq_true.2 hitems,
      fun v hv => Or.inl (hitems v hv)⟩
  · exact (mapM_leads (fun _ => pair_leads) _).bind fun vs => Leads.pure (hlist vs)
  · exact (mapM_leads (fun _ => pair_leads) _).bind fun vs => Leads.pure (hlist vs)
  · exact Leads.throw _

/-- One collection less is pending. -/
theorem settle_leads (n : Nat) (rest : List Nat) :
    Leads (Builder.IsClosed nodes done (n :: rest) promised) (settle n) fun _ =>
      Builder.IsClosed nodes done rest promised :=
  (content_leads n).bind fun _ => Leads.modify fun _ ⟨hb, hcollection, hparts⟩ =>
    hb.setCollection hcollection hparts

/-- Nothing waits behind the last level: every level takes nodes that have not waited before. -/
theorem settleAll_leads (fuel : Nat) (done : List Nat) (hfuel : nodes.size < fuel + done.length) :
    Leads (Builder.IsClosed nodes done [] promised) (settleAll fuel) fun _ b =>
      b.waiting = [] ∧ ∃ done, b.IsClosed nodes done [] promised := by
  induction fuel generalizing done with
  | zero =>
    refine Leads.pure fun b hb => ?_
    have hlength := hb.length_le
    rw [List.length_append] at hlength
    omega
  | succ fuel ih =>
    rw [settleAll]
    refine Leads.get.bind fun b₀ => ?_
    dsimp only
    split
    · next hlevel =>
      refine Leads.bind (J := fun _ => Builder.IsClosed nodes (done ++ b₀.waiting)
        b₀.waiting.reverse promised) (Leads.modify ?_) fun _ => ?_
      · rintro b ⟨hb, rfl⟩
        exact hb.startLevel
      · refine (Leads.forM (I := fun rest => Builder.IsClosed nodes (done ++ b₀.waiting) rest
          promised) settle_leads _).bind fun _ => ih _ ?_
        have hpos : 0 < b₀.waiting.length := List.length_pos_iff.2 (by simpa using hlevel)
        rw [List.length_append]
        omega
    · next hlevel =>
      refine Leads.pure ?_
      rintro b ⟨hb, rfl⟩
      exact ⟨by simpa using hlevel, done, hb⟩

end Building

/-! ## Documents -/

theorem Builder.start_isClosed (nodes : Array Node) :
    (Builder.start nodes).IsClosed nodes [] [] [] where
  alike := Node.AreAlike.refl nodes
  size_values := Array.size_replicate
  size_pool := by simp [start]
  values n v h := by simp [start, Array.getElem?_replicate] at h
  scalars n v h := by simp [start, Array.getElem?_replicate] at h
  pool c hc hcollection := by
    rw [Array.eq_of_mem_replicate hc] at hcollection
    cases hcollection
  promised := by simp
  nodup := List.nodup_nil
  met := by simp [start]
  pending_subset := List.Subset.refl _

/-- When nothing waits any more, what was promised is placed in the pool. -/
theorem Builder.IsClosed.isWhole {nodes : Array Node} {done : List Nat} {b : Builder} {v : Value}
    (h : b.IsClosed nodes done [] [v]) (hwaiting : b.waiting = []) : (v.outside b.pool).IsWhole := by
  have hreaches : ∀ {u}, b.Reaches [] u →
      u.isScalar = true ∨ ∃ n, u = .link n ∧ (Value.pooled b.pool n).isPlaced = true := by
    intro u hu
    simpa [Reaches, Meets, hwaiting] using hu
  have hpool : Value.IsClosedPool b.pool :=
    fun c hc hcollection u hu => hreaches (h.pool c hc hcollection u hu)
  rcases hreaches (h.promised v (List.mem_singleton_self v)) with hscalar | ⟨n, rfl, hn⟩
  · rw [Value.outside_of_isScalar hscalar]
    exact Value.isWhole_of_isScalar hscalar
  · exact Value.isWhole_pooled hpool hn

theorem Graph.isWhole_of_value {g : Graph} {v : Value} (h : g.value = .ok v) : v.IsWhole := by
  have hbuild : Leads (Builder.IsClosed g.nodes [] [] []) (do
      let v ← Building.value g.root
      Building.settleAll (g.nodes.size + 1)
      return v) fun v b => b.waiting = [] ∧ ∃ done, b.IsClosed g.nodes done [] [v] := by
    refine (value_leads g.root).bind fun v => Leads.assuming fun _ => ?_
    exact (settleAll_leads _ [] (by simp)).bind fun _ => Leads.pure fun _ hb => hb
  obtain ⟨r, hrun, h⟩ := bind_eq_ok_iff.1 h
  cases h
  obtain ⟨hwaiting, done, hb⟩ := hbuild _ r.1 r.2 (Builder.start_isClosed g.nodes) hrun
  exact hb.isWhole hwaiting

/-- In the value of a document every number is that of a collection. -/
theorem isWhole_of_valueOf {s : Source} {v : Value} (h : valueOf s = .ok v) : v.IsWhole := by
  obtain ⟨g, -, h⟩ := bind_eq_ok_iff.1 h
  cases g with
  | none =>
    cases h
    exact Value.isWhole_of_isScalar rfl
  | some g => exact Graph.isWhole_of_value h

theorem isWhole_of_ofFeed {feed : Text.Feed} {v : Value} (h : ofFeed feed = .ok v) :
    v.IsWhole := by
  obtain ⟨s, -, hvalue⟩ := bind_eq_ok_iff.1 h
  exact isWhole_of_valueOf hvalue

end FieldPattern.Document
