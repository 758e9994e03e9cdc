import FieldPattern.Document.Content
import FieldPattern.Proofs.Action.Outcome
import FieldPattern.Proofs.Value.Parts

/-!
# Work on a graph

A computation on a graph *leads* from one property of the state to another: whenever it succeeds in
a state with the first one, it leaves a state with the second one, which may speak about what is
returned as well (`Leads`). There is a rule for each way to build computations. A traversal of a
list is given a property that depends on what was returned so far, or on what is left to do.

Much of the work does not touch the values at all. It reads texts and flattens mappings, for which
it changes nodes, but it never makes a scalar of a collection. This is shown once (`WorksOnNodes`),
and whatever is not about nodes is kept by it (`WorksOnNodes.leads`).
-/

namespace FieldPattern.Document

/-! ## Nodes of a graph -/

/-- The node with a number, among the nodes of a graph. -/
def Node.at (nodes : Array Node) (n : Nat) : Node :=
  (nodes[n]?).getD Node.absent

/-- The node with a number is a collection. -/
def Node.isCollectionAt (nodes : Array Node) (n : Nat) : Bool :=
  Building.isCollection (Node.at nodes n).tag

/-- The nodes are as many, and collections have stayed collections. -/
structure Node.AreAlike (nodes nodes' : Array Node) : Prop where
  size : nodes'.size = nodes.size
  isCollectionAt : ∀ n, isCollectionAt nodes' n = isCollectionAt nodes n

theorem Node.AreAlike.refl (nodes : Array Node) : AreAlike nodes nodes :=
  ⟨rfl, fun _ => rfl⟩

theorem Node.AreAlike.trans {nodes nodes' nodes'' : Array Node} (h : AreAlike nodes nodes')
    (h' : AreAlike nodes' nodes'') : AreAlike nodes nodes'' :=
  ⟨h'.size.trans h.size, fun n => (h'.isCollectionAt n).trans (h.isCollectionAt n)⟩

/-- There are no collections beyond the last node. -/
theorem Node.lt_size_of_isCollectionAt {nodes : Array Node} {n : Nat}
    (h : isCollectionAt nodes n = true) : n < nodes.size := by
  by_cases hn : n < nodes.size
  · exact hn
  · have habsent : nodes[n]? = none := Array.getElem?_eq_none (Nat.not_lt.1 hn)
    simp [isCollectionAt, Node.at, habsent, absent, Building.isCollection] at h

/-- A node may be changed if it stays a collection, or a scalar. -/
theorem Node.AreAlike.change {nodes nodes' : Array Node} (h : AreAlike nodes nodes') {n : Nat}
    {x : Node} (hx : Building.isCollection x.tag = Node.isCollectionAt nodes n) :
    AreAlike nodes (nodes'.setIfInBounds n x) where
  size := by rw [Array.size_setIfInBounds, h.size]
  isCollectionAt m := by
    by_cases hm : n = m
    · subst hm
      by_cases hn : n < nodes'.size
      · simp [Node.isCollectionAt, Node.at, hn] at hx ⊢
        exact hx
      · rw [Array.setIfInBounds_eq_of_size_le (Nat.not_lt.1 hn)]
        exact h.isCollectionAt n
    · rw [← h.isCollectionAt m]
      simp [Node.isCollectionAt, Node.at, hm]

namespace Building

variable {α β : Type}

/-- Success leads from the first property of the state to the second one, which may depend on what
is returned. -/
def Leads (I : Builder → Prop) (x : Building α) (J : α → Builder → Prop) : Prop :=
  ∀ b a b', I b → x.run b = .ok (a, b') → J a b'

namespace Leads

variable {I : Builder → Prop} {x : Building α} {J : α → Builder → Prop}
  {L : β → Builder → Prop}

theorem pure {a : α} (h : ∀ b, I b → J a b) : Leads I (pure a) J := by
  intro b _ _ hb hrun
  cases hrun
  exact h b hb

theorem throw (e : Fault) : Leads I (throw e) J := by
  intro b _ _ _ hrun
  cases hrun

theorem ofExcept {r : Except Fault α} (h : ∀ a, r = .ok a → ∀ b, I b → J a b) :
    Leads I (MonadExcept.ofExcept r) J := by
  cases r with
  | error e => exact throw e
  | ok a => exact pure (h a rfl)

theorem bind {f : α → Building β} (hx : Leads I x J) (hf : ∀ a, Leads (J a) (f a) L) :
    Leads I (x >>= f) L := by
  intro b c b' hb hrun
  obtain ⟨r, hfirst, hrest⟩ := bind_eq_ok_iff.1 hrun
  exact hf r.1 r.2 c b' (hx b r.1 r.2 hb hfirst) hrest

/-- What is read is the state itself. -/
theorem get : Leads I get fun a b => I b ∧ a = b := by
  intro b _ _ hb hrun
  cases hrun
  exact ⟨hb, rfl⟩

theorem modify {f : Builder → Builder} {I' : Builder → Prop} (h : ∀ b, I b → I' (f b)) :
    Leads I (modify f) fun _ => I' := by
  intro b _ _ hb hrun
  cases hrun
  exact h b hb

theorem mono {I' : Builder → Prop} {J' : α → Builder → Prop} (h : Leads I x J)
    (hI : ∀ b, I' b → I b) (hJ : ∀ a b, J a b → J' a b) : Leads I' x J' :=
  fun b a b' hb hrun => hJ a b' (h b a b' (hI b hb) hrun)

/-- A condition on what was returned before does not depend on the state. -/
theorem assuming {p : Prop} (h : p → Leads I x J) : Leads (fun b => I b ∧ p) x J :=
  fun b a b' hb hrun => h hb.2 b a b' hb.1 hrun

/-! ### Lists -/

theorem mapM {f : α → Building β} {J : List β → Builder → Prop}
    (h : ∀ ys a, Leads (J ys) (f a) fun y => J (ys ++ [y])) (xs : List α) :
    Leads (J []) (xs.mapM f) J := by
  have hrest : ∀ ys, Leads (J ys) (xs.mapM f) fun zs => J (ys ++ zs) := by
    induction xs with
    | nil =>
      intro ys
      rw [List.mapM_nil]
      exact pure fun b hb => by simpa using hb
    | cons a xs ih =>
      intro ys
      rw [List.mapM_cons]
      exact (h ys a).bind fun y => (ih (ys ++ [y])).bind fun zs => pure fun b hb => by
        simpa using hb
  simpa using hrest []

theorem foldlM {f : β → α → Building β} (h : ∀ c a, Leads (L c) (f c a) L) (init : β)
    (xs : List α) : Leads (L init) (xs.foldlM f init) L := by
  induction xs generalizing init with
  | nil => exact pure fun _ hb => hb
  | cons a xs ih =>
    rw [List.foldlM_cons]
    exact (h init a).bind ih

theorem forM {f : α → Building PUnit} {I : List α → Builder → Prop}
    (h : ∀ a rest, Leads (I (a :: rest)) (f a) fun _ => I rest) (xs : List α) :
    Leads (I xs) (xs.forM f) fun _ => I [] := by
  induction xs with
  | nil => exact pure fun _ hb => hb
  | cons a xs ih =>
    rw [List.forM_eq_forM, List.forM_cons]
    exact (h a xs).bind fun _ => ih

theorem findM? {f : α → Building Bool} (h : ∀ a, Leads I (f a) fun _ => I) (xs : List α) :
    Leads I (xs.findM? f) fun _ => I := by
  induction xs with
  | nil => exact pure fun _ hb => hb
  | cons a xs ih =>
    rw [List.findM?]
    refine (h a).bind fun found => ?_
    split
    · exact pure fun _ hb => hb
    · exact ih

theorem filterM {f : α → Building Bool} (h : ∀ a, Leads I (f a) fun _ => I) (xs : List α) :
    Leads I (xs.filterM f) fun _ => I := by
  have haux : ∀ found, Leads I (xs.filterAuxM f found) fun _ => I := by
    induction xs with
    | nil => exact fun _ => pure fun _ hb => hb
    | cons a xs ih => exact fun found => (h a).bind fun _ => ih _
  exact (haux []).bind fun _ => pure fun _ hb => hb

theorem forIn {f : α → β → Building (ForInStep β)} (h : ∀ a c, Leads I (f a c) fun _ => I)
    (xs : List α) (init : β) : Leads I (forIn xs init f) fun _ => I := by
  induction xs generalizing init with
  | nil => exact pure fun _ hb => hb
  | cons a xs ih =>
    rw [List.forIn_cons]
    refine (h a init).bind fun step => ?_
    split
    · exact pure fun _ hb => hb
    · exact ih _

end Leads

/-! ## Work on nodes alone -/

/-- Nothing but nodes is different, and collections have stayed collections. -/
structure DiffersInNodes (b b' : Builder) : Prop where
  eq : b' = { b with nodes := b'.nodes }
  nodes : Node.AreAlike b.nodes b'.nodes

theorem DiffersInNodes.refl (b : Builder) : DiffersInNodes b b :=
  ⟨rfl, Node.AreAlike.refl b.nodes⟩

/-- The computation changes nodes at most, and makes no scalars of collections, nor collections of
scalars. -/
def WorksOnNodes (x : Building α) : Prop :=
  ∀ b₀, Leads (DiffersInNodes b₀) x fun _ => DiffersInNodes b₀

namespace WorksOnNodes

variable {x : Building α}

theorem pure (a : α) : (pure a : Building α).WorksOnNodes :=
  fun _ => Leads.pure fun _ hb => hb

theorem throw (e : Fault) : (throw e : Building α).WorksOnNodes :=
  fun _ => Leads.throw e

theorem bind {f : α → Building β} (hx : x.WorksOnNodes) (hf : ∀ a, (f a).WorksOnNodes) :
    (x >>= f).WorksOnNodes :=
  fun b₀ => (hx b₀).bind fun a => hf a b₀

theorem mapM {f : α → Building β} (h : ∀ a, (f a).WorksOnNodes) (xs : List α) :
    (xs.mapM f).WorksOnNodes :=
  fun b₀ => Leads.mapM (J := fun _ => DiffersInNodes b₀) (fun _ a => h a b₀) xs

theorem findM? {f : α → Building Bool} (h : ∀ a, (f a).WorksOnNodes) (xs : List α) :
    (xs.findM? f).WorksOnNodes :=
  fun b₀ => Leads.findM? (fun a => h a b₀) xs

theorem filterM {f : α → Building Bool} (h : ∀ a, (f a).WorksOnNodes) (xs : List α) :
    (xs.filterM f).WorksOnNodes :=
  fun b₀ => Leads.filterM (fun a => h a b₀) xs

/-- What does not look at the nodes is kept, and what looks at them must allow for the change. -/
theorem leads (h : x.WorksOnNodes) {I : Builder → Prop}
    (hI : ∀ b b', I b → DiffersInNodes b b' → I b') : Leads I x fun _ => I :=
  fun b a b' hb hrun => hI b b' hb (h b b a b' (DiffersInNodes.refl b) hrun)

end WorksOnNodes

theorem node_leads {I : Builder → Prop} (n : Nat) :
    Leads I (node n) fun x b => I b ∧ x = Node.at b.nodes n :=
  Leads.get.bind fun _ => Leads.pure fun _ ⟨hb, heq⟩ => ⟨hb, by rw [heq, Node.at]⟩

theorem tag_leads {I : Builder → Prop} (n : Nat) :
    Leads I (tag n) fun t b => I b ∧ t = (Node.at b.nodes n).tag :=
  (node_leads n).bind fun _ => Leads.pure fun _ ⟨hb, heq⟩ => ⟨hb, by rw [heq]⟩

theorem node_worksOnNodes (n : Nat) : (node n).WorksOnNodes :=
  fun _ => (node_leads n).mono (fun _ hb => hb) fun _ _ hb => hb.1

theorem tag_worksOnNodes (n : Nat) : (tag n).WorksOnNodes :=
  fun _ => (tag_leads n).mono (fun _ hb => hb) fun _ _ hb => hb.1

theorem entries?_worksOnNodes (n : Nat) : (entries? n).WorksOnNodes := by
  refine (node_worksOnNodes n).bind fun x => ?_
  split <;> exact WorksOnNodes.pure _

/-- A node may be put in the place of one that is a collection if and only if it is one itself. -/
theorem change_leads {b₀ : Builder} {n : Nat} {tag : Tag} {body : Body}
    (htag : isCollection tag = Node.isCollectionAt b₀.nodes n) :
    Leads (DiffersInNodes b₀) (change n ⟨tag, body⟩) fun _ => DiffersInNodes b₀ := by
  refine Leads.modify fun b hb => ⟨?_, hb.nodes.change htag⟩
  rw [hb.eq]

/-- What is read at a node is a collection if there was one at the beginning. -/
theorem node_leads_isCollection (b₀ : Builder) (n : Nat) :
    Leads (DiffersInNodes b₀) (node n) fun x b => DiffersInNodes b₀ b ∧
      isCollection x.tag = Node.isCollectionAt b₀.nodes n := by
  refine (node_leads n).mono (fun _ hb => hb) fun x b ⟨hb, heq⟩ => ⟨hb, ?_⟩
  rw [heq]
  exact hb.nodes.isCollectionAt n

/-! ### Texts -/

theorem scalarText_worksOnNodes (fuel n : Nat) : (scalarText fuel n).WorksOnNodes := by
  induction fuel generalizing n with
  | zero => exact WorksOnNodes.throw _
  | succ fuel ih =>
    rw [scalarText]
    refine (node_worksOnNodes n).bind fun x => ?_
    split
    · exact WorksOnNodes.pure _
    · exact WorksOnNodes.throw _
    · next entries _ =>
      have hself : ∀ e : Nat × Nat,
          (do return (← tag e.1) == .self : Building Bool).WorksOnNodes :=
        fun e => (tag_worksOnNodes e.1).bind fun _ => WorksOnNodes.pure _
      refine (WorksOnNodes.findM? hself entries).bind fun found => ?_
      split
      · exact ih _
      · exact WorksOnNodes.throw _

/-! ### Merging -/

theorem isMerge_worksOnNodes (e : Nat × Nat) : (isMerge e).WorksOnNodes :=
  (tag_worksOnNodes e.1).bind fun _ => WorksOnNodes.pure _

theorem takeMerge_worksOnNodes (n : Nat) : (takeMerge n).WorksOnNodes := by
  intro b₀
  refine (node_leads_isCollection b₀ n).bind fun x => Leads.assuming fun hx => ?_
  split
  · next entries _ =>
    refine (WorksOnNodes.findM? isMerge_worksOnNodes entries b₀).bind fun found => ?_
    split
    · exact (change_leads hx).bind fun _ => WorksOnNodes.pure _ b₀
    · exact WorksOnNodes.pure _ b₀
  · exact WorksOnNodes.pure _ b₀

theorem plainKeys_worksOnNodes (n : Nat) : (plainKeys n).WorksOnNodes := by
  intro b₀
  refine (entries?_worksOnNodes n b₀).bind fun entries => ?_
  refine (Leads.forIn (fun e _ => ?_) _ _).bind fun _ => WorksOnNodes.pure _ b₀
  refine (node_leads_isCollection b₀ e.1).bind fun k => Leads.assuming fun hk => ?_
  split
  · next hself =>
    have hscalar : isCollection Tag.str = Node.isCollectionAt b₀.nodes e.1 := by
      rw [← hk, beq_iff_eq.1 hself]
      rfl
    exact (change_leads hscalar).bind fun _ => WorksOnNodes.pure _ b₀
  · exact WorksOnNodes.pure _ b₀

theorem addEntries_worksOnNodes (n : Nat) (imported : List (Nat × Nat)) :
    (addEntries n imported).WorksOnNodes := by
  intro b₀
  refine (node_leads_isCollection b₀ n).bind fun x => Leads.assuming fun hx => ?_
  split
  · exact change_leads hx
  · exact WorksOnNodes.pure _ b₀

theorem flatten_worksOnNodes (fuel n : Nat) : (flatten fuel n).WorksOnNodes := by
  induction fuel generalizing n with
  | zero => exact WorksOnNodes.throw _
  | succ fuel ih =>
    have hlast : (do plainKeys n; return (← entries? n).getD [] :
        Building (List (Nat × Nat))).WorksOnNodes :=
      (plainKeys_worksOnNodes n).bind fun _ =>
        (entries?_worksOnNodes n).bind fun _ => WorksOnNodes.pure _
    rw [flatten]
    refine (entries?_worksOnNodes n).bind fun entries => ?_
    dsimp only
    split
    · refine (WorksOnNodes.filterM isMerge_worksOnNodes _).bind fun merging => ?_
      refine (WorksOnNodes.mapM (fun _ => ?_) merging).bind fun imports => ?_
      · refine (takeMerge_worksOnNodes n).bind fun source => ?_
        split
        · exact WorksOnNodes.pure _
        · next source =>
          refine (node_worksOnNodes source).bind fun x => ?_
          split
          · exact ih source
          · exact (WorksOnNodes.mapM ih _).bind fun _ => WorksOnNodes.pure _
          · exact WorksOnNodes.throw _
      · split
        · exact (addEntries_worksOnNodes n _).bind fun _ => hlast
        · exact hlast
    · exact WorksOnNodes.throw _

/-! ## Scalars -/

theorem isScalar_of_timestamp {text : List Char} {v : Value}
    (h : Scalar.timestamp text = .ok v) : v.isScalar = true := by
  unfold Scalar.timestamp at h
  split at h
  · cases h
  · split at h <;> split at h <;> cases h <;> rfl

theorem isScalar_of_bytes {text : List Char} {v : Value} (h : Scalar.bytes text = .ok v) :
    v.isScalar = true := by
  unfold Scalar.bytes at h
  split at h
  · split at h <;> cases h
    rfl
  · cases h

/-- The value of a scalar has no parts. -/
theorem isScalar_of_scalarValue {tag : Tag} {text : List Char} {v : Value}
    (h : Scalar.value tag text = .ok v) : v.isScalar = true := by
  have hmap : ∀ {α : Type} {r : Except Fault α} {f : α → Value},
      (∀ a, (f a).isScalar = true) → r.map f = .ok v → v.isScalar = true := by
    intro α r f hf h
    obtain ⟨a, -, rfl⟩ := map_eq_ok_iff.1 h
    exact hf a
  unfold Scalar.value at h
  split at h
  · cases h
    rfl
  · exact hmap (fun _ => rfl) h
  · exact hmap (fun _ => rfl) h
  · exact hmap (fun _ => rfl) h
  · exact isScalar_of_timestamp h
  · exact isScalar_of_bytes h
  · cases h
    rfl
  · cases h

theorem scalar_leads {I : Builder → Prop} (hI : ∀ b b', I b → DiffersInNodes b b' → I b')
    (n : Nat) : Leads I (scalar n) fun v b => I b ∧ v.isScalar = true := by
  refine ((node_worksOnNodes n).leads hI).bind fun x => ?_
  dsimp only
  split
  · exact Leads.bind (J := fun _ _ => False) (Leads.throw _) fun _ _ _ _ h => h.elim
  · have hget : Leads I get fun _ => I := Leads.get.mono (fun _ hb => hb) fun _ _ hb => hb.1
    refine hget.bind fun b => ?_
    refine ((scalarText_worksOnNodes _ n).leads hI).bind fun text => ?_
    split
    · exact Leads.throw _
    · exact Leads.ofExcept fun v hv _ hb => ⟨hb, isScalar_of_scalarValue hv⟩

/-! ## Values that were found -/

theorem getD_none_eq_some_iff {found : Option (Option Value)} {v : Value} :
    found.getD none = some v ↔ found = some (some v) := by
  cases found <;> simp

theorem eq_or_found_of_setIfInBounds {values : Array (Option Value)} {n m : Nat} {v w : Value}
    (h : (values.setIfInBounds n (some v))[m]? = some (some w)) :
    n = m ∧ w = v ∨ values[m]? = some (some w) := by
  rw [Array.getElem?_setIfInBounds] at h
  split at h
  · next heq =>
    split at h
    · exact Or.inl ⟨heq, (Option.some.inj (Option.some.inj h)).symm⟩
    · cases h
  · exact Or.inr h


/-- A value that was found is not lost. -/
theorem exists_found_setIfInBounds {values : Array (Option Value)} {m : Nat}
    (h : ∃ w, values[m]? = some (some w)) (n : Nat) (v : Value) :
    ∃ w, (values.setIfInBounds n (some v))[m]? = some (some w) := by
  obtain ⟨w, hw⟩ := h
  rw [Array.getElem?_setIfInBounds]
  by_cases heq : n = m
  · have hm : m < values.size := (Array.getElem?_eq_some_iff.1 hw).1
    exact ⟨v, by simp [heq, hm]⟩
  · exact ⟨w, by simp [heq, hw]⟩

/-- An entry that is set has the key or a key from before, and the value or a value from before. -/
theorem forall_mem_put {p : Key → Prop} {q : Value → Prop} {entries : List (Key × Value)}
    (h : ∀ e ∈ entries, p e.1 ∧ q e.2) {k : Key} {v : Value} (hk : p k) (hv : q v) :
    ∀ e ∈ put entries k v, p e.1 ∧ q e.2 := by
  intro e he
  rw [put] at he
  split at he
  · obtain ⟨e, hmem, rfl⟩ := List.mem_map.1 he
    split
    · exact ⟨(h e hmem).1, hv⟩
    · exact h e hmem
  · rcases List.mem_append.1 he with he | he
    · exact h e he
    · obtain rfl := List.mem_singleton.1 he
      exact ⟨hk, hv⟩

theorem mem_of_mem_shownOrder {members : List Value} {v : Value}
    (h : v ∈ Value.shownOrder members) : v ∈ members := by
  rw [Value.shownOrder] at h
  dsimp only at h
  rcases List.mem_append.1 h with h | h
  · obtain ⟨⟨place, w⟩, hw, rfl⟩ := List.mem_map.1 h
    rw [List.mem_mergeSort] at hw
    refine List.foldlRecOn members _ (motive := fun placed => ∀ e ∈ placed, e.2 ∈ members)
      ?_ ?_ _ hw
    · simp
    · intro placed hplaced x hx e he
      split at he
      · rcases List.mem_cons.1 he with rfl | he
        · exact hx
        · exact hplaced e he
      · exact hplaced e he
  · exact (List.mem_filter.1 h).1

end Building
end FieldPattern.Document
