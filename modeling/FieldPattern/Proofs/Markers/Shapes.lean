import FieldPattern.Markers

/-!
# Shapes of markers

Markers can be given in six shapes, and whichever is used, the same two texts come out
(`Denotes`, `resolve_isDenoted`). What is empty is told apart first, before its shape is looked at.
This decides nothing: an empty text, an empty mapping and a mapping without sides denote no markers
by their shape as well, and a pair of empty texts is not empty.

A text is the one shape that does not show where its sides are. It writes two sides of one length
behind each other, and where the last character of the left side is the first of the right, this
character once. So every text can be taken apart in one way, in the middle; an odd text has its
middle character on both sides, and dropping it from one of them gives the text back.
-/

namespace FieldPattern
namespace Markers

/-- The markers as a settled value. -/
def toValue (m : Markers) : Value :=
  .markers m.left m.right

/-- A side of a mapping or a record: a text, or nothing, which counts as empty. -/
inductive IsSide : Option Value → String → Prop
  | absent : IsSide none ""
  | null : IsSide (some .null) ""
  | text (s : String) : IsSide (some (.str s)) s

/-- The shapes in which two texts are given as markers. -/
inductive Denotes : Value → String → String → Prop
  | list (l r : String) : Denotes (.list [.str l, .str r]) l r
  | tuple (l r : String) : Denotes (.tuple [.str l, .str r]) l r
  | map {entries : List (Value × Value)} {l r : String}
      (hleft : IsSide (Value.lookup? entries "left") l)
      (hright : IsSide (Value.lookup? entries "right") r) : Denotes (.map entries) l r
  | record {attributes : List (String × Value)} {l r : String}
      (hleft : IsSide (Value.attribute? attributes "left") l)
      (hright : IsSide (Value.attribute? attributes "right") r) : Denotes (.record attributes) l r
  | markers (l r : String) : Denotes (.markers (.str l) (.str r)) l r
  /-- Two sides of one length, one behind the other. -/
  | halves {l r : String} (hlength : l.length = r.length) : Denotes (.str (l ++ r)) l r
  /-- The same, and a character that both sides share in the middle stands there once. -/
  | shared {l r : String} {c : Char} (hlength : l.length = r.length)
      (hlast : l.toList.getLast? = some c) (hfirst : r.toList.head? = some c) :
      Denotes (.str (l ++ String.ofList (r.toList.drop 1))) l r

/-! ## Texts -/

/-- The sides of a text lap over in its middle by what is left between two halves. -/
theorem ofText_append {a c b : List Char} (hlength : a.length = b.length) (hc : c.length ≤ 1) :
    ofText (String.ofList (a ++ c ++ b)) =
      ofTexts (String.ofList (a ++ c)) (String.ofList (c ++ b)) := by
  have hhalf : (a ++ c ++ b).length / 2 = a.length := by
    simp only [List.length_append]
    omega
  have hodd : (a ++ c ++ b).length % 2 = c.length := by
    simp only [List.length_append]
    omega
  have hleft : (a ++ c ++ b).take (a.length + c.length) = a ++ c :=
    List.take_left' List.length_append
  have hright : (a ++ c ++ b).drop a.length = c ++ b := by
    rw [List.append_assoc, List.drop_left]
  simp only [ofText, String.toList_ofList, hhalf, hodd, hleft, hright]

theorem ofText_halves {l r : String} (hlength : l.length = r.length) :
    ofText (l ++ r) = ofTexts l r := by
  rw [← String.length_toList, ← String.length_toList] at hlength
  have hsides := ofText_append (c := []) hlength (Nat.zero_le 1)
  simpa using hsides

theorem ofText_shared {l r : String} {c : Char} (hlength : l.length = r.length)
    (hlast : l.toList.getLast? = some c) (hfirst : r.toList.head? = some c) :
    ofText (l ++ String.ofList (r.toList.drop 1)) = ofTexts l r := by
  obtain ⟨a, ha⟩ := List.getLast?_eq_some_iff.1 hlast
  obtain ⟨b, hb⟩ := List.head?_eq_some_iff.1 hfirst
  rw [← String.length_toList, ← String.length_toList, ha, hb] at hlength
  have hhalves : a.length = b.length := by simpa using hlength
  have hl : l = String.ofList (a ++ [c]) := by rw [← ha, String.ofList_toList]
  have hr : r = String.ofList ([c] ++ b) := by
    rw [List.singleton_append, ← hb, String.ofList_toList]
  rw [hb, List.drop_one, List.tail_cons, hr, hl, ← String.ofList_append]
  exact ofText_append hhalves (Nat.le_refl 1)

/-- The sides of a text overlap in its middle character, if it has one. -/
theorem exists_ofText_eq (s : String) :
    ∃ l r, ofText s = ofTexts l r ∧ l.length = (s.length + 1) / 2 ∧
      r.length = (s.length + 1) / 2 ∧ l.toList <+: s.toList ∧ r.toList <:+ s.toList ∧
        l ++ String.ofList (r.toList.drop (s.length % 2)) = s := by
  refine ⟨_, _, rfl, ?_, ?_, ?_, ?_, ?_⟩
  · simp only [String.length_ofList, List.length_take, String.length_toList]
    omega
  · simp only [String.length_ofList, List.length_drop, String.length_toList]
    omega
  · rw [String.toList_ofList]
    exact List.take_prefix _ _
  · rw [String.toList_ofList]
    exact List.drop_suffix _ _
  · rw [String.toList_ofList, ← String.ofList_append, List.drop_drop, String.length_toList,
      List.take_append_drop, String.ofList_toList]

/-! ## Every shape -/

variable {spec : Value}

theorem resolve_of_not_truthy (h : spec.truthy = false) : resolve spec = .ok bare := by
  rw [resolve, h]
  rfl

theorem resolve_text {s : String} (h : spec.expose = .str s) : resolve spec = .ok (ofText s) := by
  by_cases hempty : s = ""
  · have hfalsy : spec.truthy = false := by simp [Value.truthy, h, hempty]
    rw [resolve_of_not_truthy hfalsy, hempty]
    rfl
  · have htruthy : spec.truthy = true := by simp [Value.truthy, h, hempty]
    simp [resolve, htruthy, h]

/-- The values on the two sides of a specification that names them apart. -/
def sides? (spec : Value) : Option (Value × Value) :=
  match spec.expose with
  | .list [l, r] | .tuple [l, r] => some (l, r)
  | .map entries =>
    some ((Value.lookup? entries "left").getD .null, (Value.lookup? entries "right").getD .null)
  | .record attributes =>
    some ((Value.attribute? attributes "left").getD .null,
      (Value.attribute? attributes "right").getD .null)
  | _ => none

theorem resolve_of_sides? {left right : Value} (h : sides? spec = some (left, right)) :
    resolve spec = ofSides left right := by
  unfold sides? at h
  split at h
  · next hlayer =>
    cases h
    simp [resolve, Value.truthy, hlayer]
  · next hlayer =>
    cases h
    simp [resolve, Value.truthy, hlayer]
  · next entries hlayer =>
    cases h
    by_cases hempty : entries = []
    · have hfalsy : spec.truthy = false := by simp [Value.truthy, hlayer, hempty]
      rw [resolve_of_not_truthy hfalsy, hempty]
      rfl
    · simp [resolve, Value.truthy, hlayer, hempty]
  · next hlayer =>
    cases h
    simp [resolve, Value.truthy, hlayer]
  · cases h

/-- Only sides that are named apart have to be written. -/
theorem exists_resolve_of_sides?_eq_none (h : sides? spec = none) : ∃ m, resolve spec = .ok m := by
  unfold sides? at h
  rw [resolve]
  split
  · exact ⟨bare, rfl⟩
  · split
    · exact ⟨_, rfl⟩
    · exact ⟨_, rfl⟩
    · next hlayer => simp [hlayer] at h
    · next hlayer => simp [hlayer] at h
    · next hlayer => simp [hlayer] at h
    · next hlayer => simp [hlayer] at h
    · exact ⟨bare, rfl⟩

theorem IsSide.side_eq {v : Option Value} {s : String} (h : IsSide v s) :
    side (v.getD .null) = .ok s := by
  cases h <;> rfl

theorem resolve_of_isSide {left right : Option Value} {l r : String} (hleft : IsSide left l)
    (hright : IsSide right r) (hsides : sides? spec = some (left.getD .null, right.getD .null)) :
    resolve spec = .ok (ofTexts l r) := by
  rw [resolve_of_sides? hsides, ofSides, hleft.side_eq, hright.side_eq]
  rfl

/-- Markers come out of a shape as the texts that it gives. -/
theorem resolve_of_denotes {l r : String} (h : Denotes spec.expose l r) :
    resolve spec = .ok (ofTexts l r) := by
  generalize hlayer : spec.expose = layer at h
  cases h with
  | list l r =>
    have hsides : sides? spec = some (.str l, .str r) := by rw [sides?, hlayer]
    exact resolve_of_isSide (.text l) (.text r) hsides
  | tuple l r =>
    have hsides : sides? spec = some (.str l, .str r) := by rw [sides?, hlayer]
    exact resolve_of_isSide (.text l) (.text r) hsides
  | map hleft hright => exact resolve_of_isSide hleft hright (by rw [sides?, hlayer])
  | record hleft hright => exact resolve_of_isSide hleft hright (by rw [sides?, hlayer])
  | markers l r =>
    have htruthy : spec.truthy = true := by simp [Value.truthy, hlayer]
    simp [resolve, htruthy, hlayer, ofTexts]
  | halves hlength => rw [resolve_text hlayer, ofText_halves hlength]
  | shared hlength hlast hfirst => rw [resolve_text hlayer, ofText_shared hlength hlast hfirst]

theorem resolve_toValue (m : Markers) : resolve m.toValue = .ok m :=
  rfl

/-- Two texts come out of every shape that gives them. Out of a text come two sides of one length
that lap over by at most a character, and so give the text back; and settled markers stay as they
are. -/
theorem resolve_isDenoted :
    (∀ spec l r, Denotes spec.expose l r → resolve spec = .ok (ofTexts l r)) ∧
      (∀ s, ∃ l r, resolve (.str s) = .ok (ofTexts l r) ∧
        l.length = (s.length + 1) / 2 ∧ r.length = (s.length + 1) / 2 ∧
          l.toList <+: s.toList ∧ r.toList <:+ s.toList ∧
            l ++ String.ofList (r.toList.drop (s.length % 2)) = s) ∧
      ∀ spec m, resolve spec = .ok m → resolve m.toValue = .ok m ∧ isSettled m.toValue = true := by
  refine ⟨fun spec l r => resolve_of_denotes, ?_, ?_⟩
  · intro s
    obtain ⟨l, r, hs, hsides⟩ := exists_ofText_eq s
    refine ⟨l, r, ?_, hsides⟩
    rw [resolve_text rfl, hs]
  · intro spec m _
    exact ⟨resolve_toValue m, rfl⟩

/-- Nine characters write the sides of five characters that share the middle one. Both are found
again, in the other shapes as well. -/
theorem resolve_isDenoted_shared :
    resolve (.str "<!--|--!>") = .ok (ofTexts "<!--|" "|--!>") ∧
      resolve (.map [(.str "right", .str "|--!>"), (.str "left", .str "<!--|")]) =
        .ok (ofTexts "<!--|" "|--!>") ∧
      resolve (.map [(.str "left", .null)]) = .ok (ofTexts "" "") ∧
      resolve (.markers (.str "<!--|") (.str "|--!>")) = .ok (ofTexts "<!--|" "|--!>") := by
  obtain ⟨hshapes, -, hsettled⟩ := resolve_isDenoted
  have htext : "<!--|" ++ String.ofList ("|--!>".toList.drop 1) = "<!--|--!>" := by decide
  have hshared : Denotes (.str "<!--|--!>") "<!--|" "|--!>" := by
    rw [← htext]
    exact .shared (c := '|') (by decide) (by decide) (by decide)
  have hresolve := hshapes (.str "<!--|--!>") _ _ hshared
  exact ⟨hresolve, hshapes _ _ _ (.map (.text _) (.text _)), hshapes _ _ _ (.map .null .absent),
    (hsettled _ _ hresolve).1⟩

end Markers
end FieldPattern
