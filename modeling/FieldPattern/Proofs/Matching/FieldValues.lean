import FieldPattern.Matcher
import FieldPattern.Proofs.Action.Outcome
import FieldPattern.Proofs.Coercion.Numeral
import Mathlib.Data.List.Nodup

/-!
# Field values

Field values are set one after another, and a field that has a value already keeps its position. So
no name occurs twice in the field values of an occurrence, though a field may occur twice in the
expression (`nodup_ofCaptures`). Where the names are different in the first place, setting one field
after another only lists them (`foldl_put`).

Setting a field fails only under weak parsing, on a numeral that is too long. The first one stops
the others, also if its field is set again later (`ofCaptures_eq_error_iff`).
-/

namespace FieldPattern

namespace FieldValues

/-! ## Names -/

/-- The names in order. -/
def names (values : FieldValues) : List String :=
  values.map (·.1)

theorem put_of_mem {values : FieldValues} {name : String} {d : Datum} (h : name ∈ values.names) :
    values.put name d = values.map fun e => if e.1 == name then (name, d) else e := by
  have hany : (values.any (·.1 == name)) = true := by
    obtain ⟨e, he, rfl⟩ := List.mem_map.1 h
    exact List.any_eq_true.2 ⟨e, he, beq_self_eq_true _⟩
  rw [put, if_pos hany]

theorem put_of_notMem {values : FieldValues} {name : String} {d : Datum}
    (h : name ∉ values.names) : values.put name d = values ++ [(name, d)] := by
  have hany : (values.any (·.1 == name)) = false := by
    rw [List.any_eq_false]
    intro e he
    rw [beq_iff_eq]
    rintro rfl
    exact h (List.mem_map_of_mem he)
  rw [put, hany, if_neg Bool.false_ne_true]

theorem names_put (values : FieldValues) (name : String) (d : Datum) :
    (values.put name d).names =
      if name ∈ values.names then values.names else values.names ++ [name] := by
  split
  · next h =>
    rw [put_of_mem h, names, names, List.map_map]
    apply List.map_congr_left
    intro e he
    rw [Function.comp_apply]
    split
    · next heq => exact (eq_of_beq heq).symm
    · rfl
  · next h => rw [put_of_notMem h, names, List.map_append, List.map_singleton, names]

theorem mem_names_put_iff {values : FieldValues} {name k : String} {d : Datum} :
    name ∈ (values.put k d).names ↔ name ∈ values.names ∨ name = k := by
  rw [names_put]
  split
  · next hk =>
    constructor
    · exact Or.inl
    · rintro (hname | rfl)
      · exact hname
      · exact hk
  · rw [List.mem_append, List.mem_singleton]

theorem nodup_put {values : FieldValues} (h : values.names.Nodup) (name : String) (d : Datum) :
    (values.put name d).names.Nodup := by
  rw [names_put]
  split
  · exact h
  · next hnew =>
    rw [List.nodup_append]
    refine ⟨h, List.nodup_singleton name, ?_⟩
    rintro a ha b hb rfl
    exact hnew (List.mem_singleton.1 hb ▸ ha)

/-- Setting fields with different names one after another appends them. -/
theorem foldl_put {values more : FieldValues} (h : (values ++ more).names.Nodup) :
    more.foldl (fun values e => values.put e.1 e.2) values = values ++ more := by
  induction more generalizing values with
  | nil => exact (List.append_nil values).symm
  | cons e more ih =>
    have hnew : e.1 ∉ values.names := by
      rw [names, List.map_append, List.map_cons, List.nodup_append] at h
      intro hmem
      exact h.2.2 _ hmem _ List.mem_cons_self rfl
    rw [List.append_cons] at h
    rw [List.foldl_cons, put_of_notMem hnew, ih h, List.append_assoc, List.singleton_append]

theorem nodup_extend {weak : Bool} {values found : FieldValues} {fields : List String}
    {groups : Captures} (h : values.names.Nodup)
    (hfound : extend weak values fields groups = .ok found) : found.names.Nodup := by
  induction fields generalizing values groups with
  | nil =>
    cases hfound
    exact h
  | cons name names ih =>
    cases groups with
    | nil =>
      cases hfound
      exact h
    | cons group groups =>
      cases group with
      | none => exact ih h hfound
      | some s =>
        obtain ⟨d, -, hrest⟩ := bind_eq_ok_iff.1 hfound
        exact ih (nodup_put h name d) hrest

/-- The names of the field values of an occurrence are different. -/
theorem nodup_ofCaptures {weak : Bool} {found : FieldValues} {fields : List String}
    {groups : Captures} (h : ofCaptures weak fields groups = .ok found) : found.names.Nodup :=
  have hnone : (names []).Nodup := List.nodup_nil
  nodup_extend hnone h

/-! ## Captures without a value -/

section Failing

variable {weak : Bool} {values : FieldValues} {fields : List String} {groups : Captures}
  {s : String}

/-- The captures that belong to a field, in order. -/
def paired (fields : List String) (groups : Captures) : List String :=
  (fields.zip groups).filterMap (·.2)

/-- Adds the capture of one field, if there is one. -/
def assign (weak : Bool) (values : FieldValues) : String × Option String → Except Error FieldValues
  | (_, none) => .ok values
  | (name, some s) => (datum weak s).map (values.put name)

theorem extend_eq_foldlM (weak : Bool) (values : FieldValues) (fields : List String)
    (groups : Captures) :
    extend weak values fields groups = (fields.zip groups).foldlM (assign weak) values := by
  induction fields generalizing values groups with
  | nil => rfl
  | cons name names ih =>
    cases groups with
    | nil => rfl
    | cons group groups =>
      rw [List.zip_cons_cons, List.foldlM_cons]
      cases group with
      | none => exact ih values groups
      | some s =>
        rw [extend, assign]
        cases datum weak s with
        | error e => rfl
        | ok d => exact ih (values.put name d) groups

theorem ofCaptures_eq_foldlM (weak : Bool) (fields : List String) (groups : Captures) :
    ofCaptures weak fields groups = (fields.zip groups).foldlM (assign weak) [] :=
  extend_eq_foldlM weak [] fields groups

theorem datum_eq_error_iff {failure : Error} :
    datum weak s = .error failure ↔
      (weak && isOverlong s) = true ∧ failure = .digitLimit s.toList.length := by
  cases weak with
  | false => simp [datum]
  | true => exact coerce_eq_error_iff

/-- Taking captures as values fails at the first of them that has no value. -/
theorem foldlM_assign_eq_error_iff {zs : List (String × Option String)} {failure : Error} :
    zs.foldlM (assign weak) values = .error failure ↔
      ∃ t, (zs.filterMap (·.2)).find? (fun s => weak && isOverlong s) = some t ∧
        failure = .digitLimit t.toList.length := by
  induction zs generalizing values with
  | nil =>
    constructor
    · exact nofun
    · rintro ⟨t, ⟨⟩, -⟩
  | cons z zs ih =>
    obtain ⟨name, _ | s⟩ := z
    · exact ih
    · have hpaired : ((name, some s) :: zs).filterMap (·.2) = s :: zs.filterMap (·.2) := rfl
      rw [List.foldlM_cons, assign, hpaired, List.find?_cons]
      cases hd : datum weak s with
      | error failure' =>
        obtain ⟨hlong, rfl⟩ := datum_eq_error_iff.1 hd
        rw [hlong]
        constructor
        · intro h
          exact ⟨s, rfl, (Except.error.inj h).symm⟩
        · rintro ⟨t, ⟨⟩, rfl⟩
          rfl
      | ok d =>
        have hshort : (weak && isOverlong s) = false := by
          rw [← Bool.not_eq_true]
          intro hlong
          rw [datum_eq_error_iff.2 ⟨hlong, rfl⟩] at hd
          cases hd
        rw [hshort]
        exact ih

theorem ofCaptures_eq_error_iff {failure : Error} :
    ofCaptures weak fields groups = .error failure ↔
      ∃ t, (paired fields groups).find? (fun s => weak && isOverlong s) = some t ∧
        failure = .digitLimit t.toList.length := by
  rw [ofCaptures_eq_foldlM, foldlM_assign_eq_error_iff, paired]

end Failing

end FieldValues
end FieldPattern
