import FieldPattern.Proofs.Matching.Assignment
import FieldPattern.Proofs.Matching.Calls

/-!
# What weak parsing changes

Two matchers that differ in weak parsing only ask their engine the same questions. By the same
response, the answer with weak parsing is the other answer with every value parsed
(`session_parsed`).

This needs a condition on the captures, and none on the answers: a capture is parsed when its field
is set, so a numeral that is too long stops the request even if a later capture of the same name
would have replaced it. The condition is on the matches that the request looks at, which is only the
first one unless all occurrences are asked for.
-/

namespace FieldPattern

open Matcher (State Request Step Told)

/-! ## Parsed answers -/

/-- The field values with every value parsed. -/
def FieldValues.IsParsed (values parsed : FieldValues) : Prop :=
  List.Forall₂ (fun e e' => e'.1 = e.1 ∧ coerceValue e.2.toValue = .ok e'.2) values parsed

/-- The answer with every value parsed. -/
inductive Answer.IsParsed : Answer → Answer → Prop
  | none : IsParsed (.first none) (.first none)
  | first {values parsed : FieldValues} (h : values.IsParsed parsed) :
      IsParsed (.first (some values)) (.first (some parsed))
  | all {found parsed : List FieldValues} (h : List.Forall₂ FieldValues.IsParsed found parsed) :
      IsParsed (.all found) (.all parsed)

/-- The outcomes are the same error, or values that are related. -/
inductive RelatedOutcomes {α : Type} (R : α → α → Prop) : Except Error α → Except Error α → Prop
  | ok {a b : α} (h : R a b) : RelatedOutcomes R (.ok a) (.ok b)
  | error (e : Error) : RelatedOutcomes R (.error e) (.error e)

theorem RelatedOutcomes.map {α β : Type} {R : α → α → Prop} {S : β → β → Prop} {f : α → β}
    {r r' : Except Error α} (h : RelatedOutcomes R r r') (hf : ∀ a b, R a b → S (f a) (f b)) :
    RelatedOutcomes S (r.map f) (r'.map f) := by
  cases h with
  | ok h => exact .ok (hf _ _ h)
  | error e => exact .error e

/-! ## One match -/

namespace FieldValues

variable {values parsed : FieldValues} {fields : List String} {groups : Captures}

theorem IsParsed.names_eq (h : values.IsParsed parsed) : parsed.names = values.names := by
  induction h with
  | nil => rfl
  | cons h _ ih => exact congrArg₂ List.cons h.1 ih

theorem IsParsed.put (h : values.IsParsed parsed) (name : String) {d d' : Datum}
    (hd : coerceValue d.toValue = .ok d') : (values.put name d).IsParsed (parsed.put name d') := by
  by_cases hmem : name ∈ values.names
  · rw [put_of_mem hmem, put_of_mem (h.names_eq ▸ hmem)]
    refine List.forall₂_map_left_iff.2 (List.forall₂_map_right_iff.2 (h.imp ?_))
    rintro ⟨k, e⟩ ⟨k', e'⟩ ⟨hk, he⟩
    obtain rfl : k' = k := hk
    dsimp only
    split
    · exact ⟨rfl, hd⟩
    · exact ⟨rfl, he⟩
  · rw [put_of_notMem hmem, put_of_notMem (h.names_eq ▸ hmem)]
    exact List.rel_append h (.cons ⟨rfl, hd⟩ .nil)

/-- Captures are parsed one by one as they are set, and this keeps what is set parsed. -/
theorem IsParsed.foldlM_assign {zs : List (String × Option String)} (h : values.IsParsed parsed)
    (hshort : ∀ s ∈ zs.filterMap (·.2), isOverlong s = false) :
    ∃ values' parsed', zs.foldlM (assign false) values = .ok values' ∧
      zs.foldlM (assign true) parsed = .ok parsed' ∧ values'.IsParsed parsed' := by
  induction zs generalizing values parsed with
  | nil => exact ⟨values, parsed, rfl, rfl, h⟩
  | cons z zs ih =>
    obtain ⟨name, _ | s⟩ := z
    · exact ih h hshort
    · obtain ⟨d, hd⟩ := exists_coerce_of_not_isOverlong (hshort s List.mem_cons_self)
      have hdatum : datum true s = .ok d := hd
      obtain ⟨values', parsed', hvalues, hparsed, hrel⟩ :=
        ih (h.put name (d := .text s) hd) fun t ht => hshort t (List.mem_cons_of_mem s ht)
      refine ⟨values', parsed', hvalues, ?_, hrel⟩
      rw [List.foldlM_cons, assign, hdatum]
      exact hparsed

theorem exists_isParsed (hshort : ∀ s ∈ paired fields groups, isOverlong s = false) :
    ∃ values parsed, ofCaptures false fields groups = .ok values ∧
      ofCaptures true fields groups = .ok parsed ∧ values.IsParsed parsed := by
  rw [ofCaptures_eq_foldlM, ofCaptures_eq_foldlM]
  exact IsParsed.foldlM_assign .nil hshort

end FieldValues

/-! ## The matches of a request -/

namespace Matcher.State

variable {s : State} {on : Value}

/-- The state of the matcher that differs in weak parsing. -/
def withWeak (s : State) (weak : Value) : State :=
  { s with options := { s.options with weak := weak } }

/-- The request is one for all occurrences. -/
def scans (s : State) : Request → Bool
  | .run _ => s.options.global.truthy
  | .matchAll _ => true

/-- The matches that the answer to a request is made of. -/
def hits (s : State) (q : Request) (r : Response) : List Hit :=
  if s.scans q then r.scanned.hits
  else match r.found with
    | .ok (some hit) => [hit]
    | _ => []

/-- The captures of a match that belong to a field. -/
def paired (s : State) (hit : Hit) : List String :=
  FieldValues.paired s.fields hit.groups

/-- The captures that belong to a field, in the matches that the answer is made of. -/
def texts (s : State) (q : Request) (r : Response) : List String :=
  (s.hits q r).flatMap s.paired

theorem valuesOf_overlong (hon : on.truthy = true) {hit : Hit} {t : String}
    (h : (s.paired hit).find? isOverlong = some t) :
    (s.withWeak on).valuesOf hit = .error (.digitLimit t.toList.length) := by
  rw [valuesOf, show (s.withWeak on).options.weak.truthy = true from hon]
  exact FieldValues.ofCaptures_eq_error_iff.2 ⟨t, h, rfl⟩

theorem exists_valuesOf (hoff : s.options.weak.truthy = false) (hon : on.truthy = true) {hit : Hit}
    (hshort : ∀ t ∈ s.paired hit, isOverlong t = false) :
    ∃ values parsed, s.valuesOf hit = .ok values ∧ (s.withWeak on).valuesOf hit = .ok parsed ∧
      values.IsParsed parsed := by
  rw [valuesOf, valuesOf, hoff, show (s.withWeak on).options.weak.truthy = true from hon]
  exact FieldValues.exists_isParsed hshort

theorem mapM_valuesOf_overlong (hoff : s.options.weak.truthy = false) (hon : on.truthy = true)
    {hits : List Hit} {t : String} (h : (hits.flatMap s.paired).find? isOverlong = some t) :
    hits.mapM (s.withWeak on).valuesOf = .error (.digitLimit t.toList.length) := by
  induction hits with
  | nil => cases h
  | cons hit hits ih =>
    rw [List.flatMap_cons, List.find?_append, Option.or_eq_some_iff] at h
    rw [List.mapM_cons]
    rcases h with h | ⟨hnone, h⟩
    · rw [valuesOf_overlong hon h]
      rfl
    · have hshort : ∀ t ∈ s.paired hit, isOverlong t = false := fun t ht =>
        Bool.eq_false_iff.2 (List.find?_eq_none.1 hnone t ht)
      obtain ⟨-, parsed, -, hparsed, -⟩ := exists_valuesOf hoff hon hshort
      rw [hparsed, ih h]
      rfl

theorem exists_mapM_valuesOf (hoff : s.options.weak.truthy = false) (hon : on.truthy = true)
    {hits : List Hit} (hshort : ∀ t ∈ hits.flatMap s.paired, isOverlong t = false) :
    ∃ found parsed, hits.mapM s.valuesOf = .ok found ∧
      hits.mapM (s.withWeak on).valuesOf = .ok parsed ∧
        List.Forall₂ FieldValues.IsParsed found parsed := by
  induction hits with
  | nil => exact ⟨[], [], rfl, rfl, .nil⟩
  | cons hit hits ih =>
    rw [List.flatMap_cons, List.forall_mem_append] at hshort
    obtain ⟨values, parsed, hvalues, hparsed, hrel⟩ := exists_valuesOf hoff hon hshort.1
    obtain ⟨found, rest, hfound, hrest, hrels⟩ := ih hshort.2
    refine ⟨values :: found, parsed :: rest, ?_, ?_, .cons hrel hrels⟩
    · rw [List.mapM_cons, hvalues, hfound]
      rfl
    · rw [List.mapM_cons, hparsed, hrest]
      rfl

/-! ## Answers -/

theorem all_overlong (hoff : s.options.weak.truthy = false) (hon : on.truthy = true) {found : Scan}
    {t : String} (h : (found.hits.flatMap s.paired).find? isOverlong = some t) :
    (s.withWeak on).all found = .error (.digitLimit t.toList.length) := by
  rw [all, mapM_valuesOf_overlong hoff hon h]

theorem all_related (hoff : s.options.weak.truthy = false) (hon : on.truthy = true) {found : Scan}
    (hshort : ∀ t ∈ found.hits.flatMap s.paired, isOverlong t = false) :
    RelatedOutcomes (List.Forall₂ FieldValues.IsParsed) (s.all found)
      ((s.withWeak on).all found) := by
  obtain ⟨values, parsed, hvalues, hparsed, hrel⟩ := exists_mapM_valuesOf hoff hon hshort
  rw [all, all, hvalues, hparsed]
  cases found.failure with
  | none => exact .ok hrel
  | some failure => exact .error (.engine failure)

theorem answer_eq (s : State) (q : Request) (r : Response) :
    s.answer q r =
      if s.scans q then (s.all r.scanned).map .all else (s.first r.found).map .first := by
  cases q <;> rfl

theorem scans_withWeak (s : State) (on : Value) (q : Request) :
    (s.withWeak on).scans q = s.scans q := by
  cases q <;> rfl

/-- The first numeral that is too long stops the request, whatever other captures there are. -/
theorem answer_overlong (hoff : s.options.weak.truthy = false) (hon : on.truthy = true)
    {q : Request} {r : Response} {t : String} (h : (s.texts q r).find? isOverlong = some t) :
    (s.withWeak on).answer q r = .error (.digitLimit t.toList.length) := by
  rw [texts, hits] at h
  rw [answer_eq, scans_withWeak]
  split
  · next hscans =>
    rw [if_pos hscans] at h
    rw [all_overlong hoff hon h]
    rfl
  · next hscans =>
    rw [if_neg hscans] at h
    split at h
    · next hit hfound =>
      rw [List.flatMap_singleton] at h
      rw [hfound, first, valuesOf_overlong hon h]
      rfl
    · cases h

/-- Without such a numeral the answers differ in parsing only. -/
theorem answer_related (hoff : s.options.weak.truthy = false) (hon : on.truthy = true)
    {q : Request} {r : Response} (hshort : ∀ t ∈ s.texts q r, isOverlong t = false) :
    RelatedOutcomes Answer.IsParsed (s.answer q r) ((s.withWeak on).answer q r) := by
  rw [texts, hits] at hshort
  rw [answer_eq, answer_eq, scans_withWeak]
  split
  · next hscans =>
    rw [if_pos hscans] at hshort
    exact (all_related hoff hon hshort).map fun _ _ => .all
  · next hscans =>
    rw [if_neg hscans] at hshort
    rcases hfound : r.found with failure | _ | hit
    · exact .error (.engine failure)
    · exact .ok .none
    · rw [hfound, List.flatMap_singleton] at hshort
      obtain ⟨values, parsed, hvalues, hparsed, hrel⟩ := exists_valuesOf hoff hon hshort
      rw [first, first, hvalues, hparsed]
      exact .ok (.first hrel)

end Matcher.State

/-! ## Sessions -/

section Sessions

variable {m : Type → Type} [Monad m]

theorem Engine.ready_choose (given : Option (Engine m)) : (Engine.choose given).ready = true := by
  cases given with
  | none => rfl
  | some e =>
    rw [choose]
    split
    · assumption
    · rfl

/-- A session with an engine is one with the engine that is used in its place. -/
theorem Matcher.session_choose (e : Engine m) (expression options : Value) (steps : List Step) :
    session (Engine.choose (some e)) expression options steps =
      session e expression options steps := by
  have hchoose : Engine.choose (some (Engine.choose (some e))) = Engine.choose (some e) :=
    if_pos (Engine.ready_choose (some e))
  rw [session, session, create, create, hchoose]

end Sessions

/-- Two sessions with an engine whose matchers differ in weak parsing only compile the same pattern
and ask the same questions. By the same response to a request, the answer with weak parsing is the
other answer with every value parsed, or the same failure of the engine, unless a capture of a
field, in a match that the request looks at, is a numeral that is too long. The first such capture
stops the request with weak parsing, even if another one decides the value of its field. -/
theorem session_parsed {m : Type → Type} [Monad m] [LawfulMonad m] {e : Engine m}
    {options options' on : Value} {settled : Options} {left right : String}
    (hoptions : Options.resolve options = .ok settled)
    (hoptions' : Options.resolve options' = .ok { settled with weak := on })
    (hoff : settled.weak.truthy = false) (hon : on.truthy = true)
    (hmarkers : settled.markers = .ofTexts left right) (expression : String) {c : Compiled}
    (hc : Compiled.ofText settled.strict.truthy left.toList right.toList expression.toList = c)
    {s : State} (hs : s = ⟨expression, c.pattern, c.fields, settled⟩) :
    (∀ steps : List Step,
      Matcher.session e (.str expression) options steps =
          (Engine.choose (some e)).compile c.pattern >>= s.course steps ∧
        Matcher.session e (.str expression) options' steps =
          (Engine.choose (some e)).compile c.pattern >>= (s.withWeak on).course steps) ∧
      ∀ (q : Request) (r : Response),
        (s.withWeak on).query q = s.query q ∧
          (∀ t, (s.texts q r).find? isOverlong = some t →
            (s.withWeak on).answer q r = .error (.digitLimit t.toList.length)) ∧
          ((∀ t ∈ s.texts q r, isOverlong t = false) →
            RelatedOutcomes Answer.IsParsed (s.answer q r) ((s.withWeak on).answer q r)) := by
  subst hs
  constructor
  · intro steps
    have hready := Engine.ready_choose (some e)
    rw [← Matcher.session_choose e, ← Matcher.session_choose e]
    exact ⟨Matcher.session_eq hready hoptions hmarkers hc steps,
      Matcher.session_eq hready hoptions' hmarkers hc steps⟩
  · intro q r
    refine ⟨?_, fun t => State.answer_overlong hoff hon, State.answer_related hoff hon⟩
    cases q <;> rfl

/-- Two matches with the captures of two fields. The zeros are one more than weak parsing takes. -/
def Response.withZeros : Response where
  found := .ok (some ⟨[some "07", none], 0, 1⟩)
  scanned := ⟨[⟨[some "07", none], 0, 1⟩, ⟨[some (zeros 4301), some "1"], 1, 2⟩], none⟩

/-- The zeros belong to a field that the next capture sets again. A search does not come to them,
and a scan does not get past them. -/
theorem session_parsed_overwritten :
    Matcher.session (Engine.responding .withZeros) (.str "x x") .null
          [.ask (.run (.str "")), .ask (.matchAll (.str ""))] =
        .ok [.reply (.ok (.first (some [("x", .text "07")]))),
          .reply (.ok (.all [[("x", .text "07")], [("x", .text "1")]]))] ∧
      Matcher.session (Engine.responding .withZeros) (.str "x x")
          (.map [(.str "weakParse", .bool true)])
          [.ask (.run (.str "")), .ask (.matchAll (.str ""))] =
        .ok [.reply (.ok (.first (some [("x", .number 7)]))),
          .reply (.error (.digitLimit 4301))] := by
  have hoptions : Options.resolve .null = .ok .default := rfl
  have hoptions' : Options.resolve (.map [(.str "weakParse", .bool true)]) =
      .ok { Options.default with weak := .bool true } := rfl
  obtain ⟨hsessions, hanswers⟩ := session_parsed (e := Engine.responding .withZeros)
    hoptions hoptions' rfl rfl rfl "x x" rfl rfl
  obtain ⟨hplain, hparsed⟩ := hsessions [.ask (.run (.str "")), .ask (.matchAll (.str ""))]
  have hfind : ["07", zeros 4301, "1"].find? isOverlong = some (zeros 4301) := by
    rw [List.find?_cons_of_neg (by decide), List.find?_cons_of_pos (isOverlong_zeros (by decide))]
  have hstop := (hanswers (.matchAll (.str "")) .withZeros).2.1 (zeros 4301) hfind
  rw [length_zeros] at hstop
  rw [hplain, hparsed]
  refine ⟨rfl, ?_⟩
  exact congrArg (fun reply => Except.ok [Told.reply (.ok (.first (some [("x", .number 7)]))),
    Told.reply reply]) hstop

end FieldPattern
