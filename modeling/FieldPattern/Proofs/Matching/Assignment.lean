import FieldPattern.Proofs.Expression.Denotation
import FieldPattern.Proofs.Matching.FieldValues
import FieldPattern.Proofs.Matching.Scanning

/-!
# Which capture a field gets

Captures belong to fields by position, and a name may stand at several positions. The first position
with a capture decides where the name stands among the values, the last one decides its value, and a
group that took no part decides nothing (`AreAssigned`). The two cannot be said together by one
position, so both are carried through the captures: adding one more keeps every first position and
moves the last position of one name (`AreAssigned.put`).

In a match of the standard engine every group takes part, and there is one group for each field.
Then the names are those of the expression, in the order in which they occur first
(`values_areAssigned`).
-/

namespace FieldPattern

namespace FieldValues

variable {weak : Bool} {values : FieldValues} {fields : List String} {groups : Captures}
  {name k s : String} {d e : Datum}

/-! ## Positions -/

/-- Position `i` has a field of this name and a group that captured `s`. -/
def CapturedAt (fields : List String) (groups : Captures) (name : String) (i : Nat) (s : String) :
    Prop :=
  fields[i]? = some name ∧ groups[i]? = some (some s)

theorem capturedAt_iff {i : Nat} :
    CapturedAt fields groups name i s ↔ (fields.zip groups)[i]? = some (name, some s) := by
  rw [List.getElem?_zip_eq_some, CapturedAt]

theorem mem_paired_iff :
    s ∈ paired fields groups ↔ ∃ name i, CapturedAt fields groups name i s := by
  rw [paired, List.mem_filterMap]
  constructor
  · rintro ⟨⟨name, _⟩, hmem, rfl⟩
    obtain ⟨i, hi⟩ := List.mem_iff_getElem?.1 hmem
    exact ⟨name, i, capturedAt_iff.2 hi⟩
  · rintro ⟨name, i, h⟩
    exact ⟨(name, some s), List.mem_of_getElem? (capturedAt_iff.1 h), rfl⟩

/-- There are values unless a numeral that belongs to a field is too long for weak parsing. -/
theorem exists_ofCaptures_iff :
    (∃ values, ofCaptures weak fields groups = .ok values) ↔
      (weak = true → ∀ name i s, CapturedAt fields groups name i s → isOverlong s = false) := by
  have hfind : (∀ s ∈ paired fields groups, ¬ (weak && isOverlong s) = true) ↔
      (weak = true → ∀ name i s, CapturedAt fields groups name i s → isOverlong s = false) := by
    simp only [mem_paired_iff, Bool.and_eq_true, not_and, Bool.not_eq_true]
    constructor
    · intro h hweak name i s hs
      exact h s ⟨name, i, hs⟩ hweak
    · rintro h s ⟨name, i, hs⟩ hweak
      exact h hweak name i s hs
  rw [← hfind, ← List.find?_eq_none]
  cases hvalues : ofCaptures weak fields groups with
  | ok values =>
    refine iff_of_true ⟨values, rfl⟩ ?_
    rw [← Option.not_isSome_iff_eq_none, Option.isSome_iff_exists]
    rintro ⟨t, ht⟩
    rw [ofCaptures_eq_error_iff.2 ⟨t, ht, rfl⟩] at hvalues
    cases hvalues
  | error failure =>
    obtain ⟨t, ht, -⟩ := ofCaptures_eq_error_iff.1 hvalues
    refine iff_of_false nofun ?_
    rw [ht]
    exact nofun

/-! ## First and last positions -/

theorem mem_put_iff :
    (name, d) ∈ values.put k e ↔ name = k ∧ d = e ∨ name ≠ k ∧ (name, d) ∈ values := by
  by_cases hk : k ∈ values.names
  · rw [put_of_mem hk, List.mem_map]
    constructor
    · rintro ⟨x, hx, hxd⟩
      split at hxd
      · cases hxd
        exact Or.inl ⟨rfl, rfl⟩
      · next hne =>
        subst hxd
        exact Or.inr ⟨fun heq => hne (beq_iff_eq.2 heq), hx⟩
    · rintro (⟨rfl, rfl⟩ | ⟨hne, hmem⟩)
      · obtain ⟨x, hx, rfl⟩ := List.mem_map.1 hk
        exact ⟨x, hx, if_pos (beq_self_eq_true _)⟩
      · exact ⟨(name, d), hmem, if_neg fun heq => hne (beq_iff_eq.1 heq)⟩
  · rw [put_of_notMem hk, List.mem_append, List.mem_singleton, Prod.mk.injEq]
    constructor
    · rintro (hmem | hnew)
      · refine Or.inr ⟨?_, hmem⟩
        rintro rfl
        exact hk (List.mem_map_of_mem hmem)
      · exact Or.inl hnew
    · rintro (hnew | ⟨-, hmem⟩)
      · exact Or.inr hnew
      · exact Or.inl hmem

/-- The names are those with a capture, in the order of their first captures, and each has the value
of its last capture; `captured` lists the captures of a name with their positions. -/
structure AreAssigned (weak : Bool) (captured : String → Nat → String → Prop)
    (values : FieldValues) : Prop where
  mem_names_iff : ∀ name, name ∈ values.names ↔ ∃ i s, captured name i s
  ordered : values.names.Pairwise fun a b =>
    ∃ i s, captured a i s ∧ ∀ j t, captured b j t → i < j
  last : ∀ name d, (name, d) ∈ values →
    ∃ i s, captured name i s ∧ (∀ j t, captured name j t → j ≤ i) ∧ datum weak s = .ok d

namespace AreAssigned

variable {captured : String → Nat → String → Prop}

theorem nil (h : ∀ name i s, ¬ captured name i s) : AreAssigned weak captured [] where
  mem_names_iff name := iff_of_false List.not_mem_nil fun ⟨i, s, hs⟩ => h name i s hs
  ordered := List.Pairwise.nil
  last _ _ hmem := absurd hmem List.not_mem_nil

/-- One more capture, behind all others, takes a new name to the end or replaces the value of an old
one. -/
theorem put (h : AreAssigned weak captured values) {n : Nat}
    (hlt : ∀ name i t, captured name i t → i < n) (hd : datum weak s = .ok d) :
    AreAssigned weak (fun name i t => captured name i t ∨ name = k ∧ i = n ∧ t = s)
      (values.put k d) where
  mem_names_iff name := by
    rw [mem_names_put_iff, h.mem_names_iff]
    constructor
    · rintro (⟨i, t, ht⟩ | rfl)
      · exact ⟨i, t, Or.inl ht⟩
      · exact ⟨n, s, Or.inr ⟨rfl, rfl, rfl⟩⟩
    · rintro ⟨i, t, ht | ⟨rfl, -, -⟩⟩
      · exact Or.inl ⟨i, t, ht⟩
      · exact Or.inr rfl
  ordered := by
    have hold : values.names.Pairwise fun a b => ∃ i t, (captured a i t ∨ a = k ∧ i = n ∧ t = s) ∧
        ∀ j u, captured b j u ∨ b = k ∧ j = n ∧ u = s → i < j := by
      refine h.ordered.imp ?_
      rintro a b ⟨i, t, ht, hbefore⟩
      refine ⟨i, t, Or.inl ht, ?_⟩
      rintro j u (hu | ⟨-, rfl, -⟩)
      · exact hbefore j u hu
      · exact hlt a i t ht
    rw [names_put]
    split
    · exact hold
    · next hk =>
      refine List.pairwise_append.2 ⟨hold, List.pairwise_singleton _ _, ?_⟩
      intro a ha b hb
      obtain rfl := List.mem_singleton.1 hb
      obtain ⟨i, t, ht⟩ := (h.mem_names_iff a).1 ha
      refine ⟨i, t, Or.inl ht, ?_⟩
      rintro j u (hu | ⟨-, rfl, -⟩)
      · exact absurd ((h.mem_names_iff b).2 ⟨j, u, hu⟩) hk
      · exact hlt a i t ht
  last name d' hmem := by
    rcases mem_put_iff.1 hmem with ⟨rfl, rfl⟩ | ⟨hne, hmem⟩
    · refine ⟨n, s, Or.inr ⟨rfl, rfl, rfl⟩, ?_, hd⟩
      rintro j u (hu | ⟨-, rfl, -⟩)
      · exact (hlt name j u hu).le
      · exact Nat.le_refl j
    · obtain ⟨i, t, ht, hlast, hdatum⟩ := h.last name d' hmem
      refine ⟨i, t, Or.inl ht, ?_, hdatum⟩
      rintro j u (hu | ⟨heq, -⟩)
      · exact hlast j u hu
      · exact absurd heq hne

theorem congr {captured' : String → Nat → String → Prop} (h : AreAssigned weak captured values)
    (hiff : ∀ name i s, captured name i s ↔ captured' name i s) :
    AreAssigned weak captured' values := by
  have heq : captured = captured' := funext₃ fun name i s => propext (hiff name i s)
  rwa [← heq]

end AreAssigned

theorem getElem?_concat_eq_some_iff {zs : List (String × Option String)}
    {z : String × Option String} {i : Nat} : (zs ++ [z])[i]? = some (name, some s) ↔
      zs[i]? = some (name, some s) ∨ i = zs.length ∧ z = (name, some s) := by
  rw [List.getElem?_append]
  split
  · next hlt =>
    constructor
    · exact Or.inl
    · rintro (h | ⟨rfl, -⟩)
      · exact h
      · exact absurd hlt (Nat.lt_irrefl _)
  · next hge =>
    rw [List.getElem?_singleton]
    constructor
    · intro h
      split at h
      · exact Or.inr ⟨by omega, Option.some.inj h⟩
      · cases h
    · rintro (h | ⟨rfl, rfl⟩)
      · exact absurd (List.getElem?_eq_some_iff.1 h).1 hge
      · rw [Nat.sub_self, if_pos rfl]

theorem areAssigned_foldlM {zs : List (String × Option String)}
    (h : zs.foldlM (assign weak) [] = .ok values) :
    AreAssigned weak (fun name i s => zs[i]? = some (name, some s)) values := by
  -- from the back, so that the pair in hand stands behind all others
  induction zs using List.reverseRecOn generalizing values with
  | nil =>
    cases h
    exact AreAssigned.nil nofun
  | append_singleton zs z ih =>
    rw [List.foldlM_append] at h
    obtain ⟨before, hbefore, hlast⟩ := bind_eq_ok_iff.1 h
    have hassigned := ih hbefore
    obtain ⟨k, _ | s⟩ := z
    · cases hlast
      refine hassigned.congr fun name i t => ?_
      simp [getElem?_concat_eq_some_iff]
    · rw [List.foldlM_cons, assign, bind_eq_ok_iff] at hlast
      obtain ⟨after, hafter, ⟨⟩⟩ := hlast
      obtain ⟨d, hd, rfl⟩ := map_eq_ok_iff.1 hafter
      refine (hassigned.put (n := zs.length) (k := k) ?_ hd).congr fun name i t => ?_
      · intro name i t ht
        exact (List.getElem?_eq_some_iff.1 ht).1
      · rw [getElem?_concat_eq_some_iff, Prod.mk.injEq, Option.some.injEq, eq_comm (a := name),
          eq_comm (a := t)]
        tauto

/-- The values that captures give are assigned by position. -/
theorem areAssigned_ofCaptures (h : ofCaptures weak fields groups = .ok values) :
    AreAssigned weak (CapturedAt fields groups) values := by
  rw [ofCaptures_eq_foldlM] at h
  exact (areAssigned_foldlM h).congr fun name i s => capturedAt_iff.symm

/-! ## All groups take part -/

section Full

variable (hlength : groups.length = fields.length) (hfull : none ∉ groups)

include hlength hfull

theorem exists_capturedAt {i : Nat} (h : fields[i]? = some name) :
    ∃ s, CapturedAt fields groups name i s := by
  obtain ⟨hi, -⟩ := List.getElem?_eq_some_iff.1 h
  cases hgroup : groups[i]? with
  | none =>
    have hle := List.getElem?_eq_none_iff.1 hgroup
    omega
  | some group =>
    cases group with
    | none => exact absurd (List.mem_of_getElem? hgroup) hfull
    | some s => exact ⟨s, h, hgroup⟩

theorem exists_capturedAt_iff : (∃ i s, CapturedAt fields groups name i s) ↔ name ∈ fields := by
  rw [List.mem_iff_getElem?]
  constructor
  · rintro ⟨i, s, h, -⟩
    exact ⟨i, h⟩
  · rintro ⟨i, h⟩
    exact ⟨i, exists_capturedAt hlength hfull h⟩

/-- Where all groups take part, the first position of a name is where it stands first. -/
theorem AreAssigned.pairwise_idxOf (h : AreAssigned weak (CapturedAt fields groups) values) :
    values.names.Pairwise fun a b => fields.idxOf a < fields.idxOf b := by
  refine h.ordered.imp_of_mem ?_
  rintro a b - hb ⟨i, s, ⟨ha, -⟩, hbefore⟩
  have hmem := (exists_capturedAt_iff hlength hfull).1 ((h.mem_names_iff b).1 hb)
  have hfirst : fields[fields.idxOf b]? = some b := by
    rw [List.getElem?_eq_getElem (List.idxOf_lt_length_of_mem hmem), List.getElem_idxOf]
  obtain ⟨t, ht⟩ := exists_capturedAt hlength hfull hfirst
  have hle : fields.idxOf a ≤ i := by
    obtain ⟨hi, heq⟩ := List.getElem?_eq_some_iff.1 ha
    by_contra hlt
    exact absurd (List.not_of_lt_findIdx (Nat.lt_of_not_le hlt)) (by simp [heq])
  have hlt := hbefore _ t ht
  omega

end Full

end FieldValues

/-! ## Matches of the standard engine -/

theorem Pattern.length_captures {f : Flags} {p : Pattern} {pieces : List (List Char)}
    (h : p.Fits f pieces) : (p.captures pieces).length = (p.filter Atom.isCapture).length := by
  induction p generalizing pieces with
  | nil =>
    obtain rfl := List.length_eq_zero_iff.1 h.length_eq
    rfl
  | cons a p ih =>
    cases pieces with
    | nil => cases h
    | cons piece pieces =>
      rw [captures, List.filter_cons]
      split
      · rw [List.length_cons, List.length_cons, ih h.2]
      · exact ih h.2

namespace Compiled

/-- The standard engine reports the match for a text, when it searches or when it scans. -/
def Reports (flags : Flags) (c : Compiled) (text : List Char) (hit : Hit) : Prop :=
  c.find flags text = .ok (some hit) ∨ ∃ hits, c.findEvery flags text = .ok hits ∧ hit ∈ hits

variable {flags : Flags} {c : Compiled} {text : List Char} {hit : Hit}

theorem Reports.exists_fits (h : c.Reports flags text hit) :
    ∃ pieces, c.atoms.Fits flags pieces ∧
      hit.groups = (c.atoms.captures pieces).map fun v => some (String.ofList v) := by
  have hfound : ∃ o ∈ c.atoms.findAll flags text, o.hit = hit := by
    rcases h with h | ⟨hits, h, hmem⟩
    · rw [find_eq, Except.ok.injEq, Option.map_eq_some_iff] at h
      obtain ⟨o, ho, hhit⟩ := h
      rw [← Pattern.head?_findAll] at ho
      exact ⟨o, List.mem_of_head? ho, hhit⟩
    · rw [findEvery_eq] at h
      cases h
      exact List.mem_map.1 hmem
  obtain ⟨o, ho, rfl⟩ := hfound
  obtain ⟨before, rest, hsplit⟩ := List.append_of_mem ho
  have hcomplete := Pattern.isComplete_findAll flags c.atoms text
  rw [hsplit] at hcomplete
  obtain ⟨-, -, ⟨pieces, hfirst, hpieces⟩, -⟩ := hcomplete.behind
  refine ⟨pieces, hfirst.stands.fits, ?_⟩
  rw [hpieces]
  rfl

/-- Every group takes part in every match, and there is one group for each field. -/
theorem Reports.groups {strict : Bool} {left right e : List Char}
    (h : (ofText strict left right e).Reports flags text hit) :
    none ∉ hit.groups ∧ hit.groups.length = (ofText strict left right e).fields.length := by
  obtain ⟨pieces, hfits, hgroups⟩ := h.exists_fits
  rw [hgroups]
  constructor
  · simp
  · have hnames := congrArg List.length
      (map_name_ofSegments left right 0 (Layout.ofText left right e).segments)
    rw [List.length_map, List.length_map] at hnames
    rw [List.length_map, Pattern.length_captures hfits, atoms_ofText, Pattern.ofText,
      Token.filter_isCapture_atoms, List.length_map]
    simpa [ofText, ofLayout, Layout.fields, Token.ofText, Layout.tokens] using hnames

end Compiled

open FieldValues (ofCaptures AreAssigned CapturedAt datum)

/-- Whatever the fields and however many captures there are, the values have the names with a
capture, in the order of their first captures, and each name has the value of its last capture;
there are values unless weak parsing meets a numeral that is too long. A match of the standard
engine captures something for each field. Hence its values have the names of the expression in the
order of their first occurrences, each with what its last occurrence captured. -/
theorem values_areAssigned :
    (∀ (weak : Bool) (fields : List String) (groups : Captures),
      (∀ values, ofCaptures weak fields groups = .ok values →
          AreAssigned weak (CapturedAt fields groups) values) ∧
        ((∃ values, ofCaptures weak fields groups = .ok values) ↔
          (weak = true → ∀ name i s, CapturedAt fields groups name i s → isOverlong s = false))) ∧
      ∀ (flags : Flags) (strict : Bool) (left right e text : List Char) (hit : Hit)
        (fields : List String), fields = (Compiled.ofText strict left right e).fields →
        (Compiled.ofText strict left right e).Reports flags text hit →
        none ∉ hit.groups ∧ hit.groups.length = fields.length ∧
          ∀ (weak : Bool) (values : FieldValues), ofCaptures weak fields hit.groups = .ok values →
            (∀ name, name ∈ values.names ↔ name ∈ fields) ∧
              (values.names.Pairwise fun a b => fields.idxOf a < fields.idxOf b) ∧
              ∀ name d, (name, d) ∈ values →
                ∃ i s, fields[i]? = some name ∧ (∀ j : Nat, fields[j]? = some name → j ≤ i) ∧
                  hit.groups[i]? = some (some s) ∧ datum weak s = .ok d := by
  constructor
  · intro weak fields groups
    exact ⟨fun values => FieldValues.areAssigned_ofCaptures, FieldValues.exists_ofCaptures_iff⟩
  · rintro flags strict left right e text hit fields rfl hreports
    obtain ⟨hfull, hlength⟩ := hreports.groups
    refine ⟨hfull, hlength, fun weak values hvalues => ?_⟩
    have hassigned := FieldValues.areAssigned_ofCaptures hvalues
    refine ⟨fun name => ?_, hassigned.pairwise_idxOf hlength hfull, fun name d hmem => ?_⟩
    · rw [hassigned.mem_names_iff, FieldValues.exists_capturedAt_iff hlength hfull]
    · obtain ⟨i, s, ⟨hfield, hgroup⟩, hlast, hdatum⟩ := hassigned.last name d hmem
      refine ⟨i, s, hfield, fun j hj => ?_, hgroup, hdatum⟩
      obtain ⟨t, ht⟩ := FieldValues.exists_capturedAt hlength hfull hj
      exact hlast j t ht

/-- A group that took no part neither sets a field nor takes its value, and a group without a field
is left out. -/
example : ofCaptures false ["a", "b", "c", "a", "a"]
    [some "1", none, some "2", some "3", none, some "4"] =
      .ok [("a", .text "3"), ("c", .text "2")] := by
  decide

end FieldPattern
