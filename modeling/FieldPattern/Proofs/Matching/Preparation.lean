import FieldPattern.Matcher
import FieldPattern.Proofs.Action.Outcome
import FieldPattern.Proofs.Pattern.Search

/-!
# Matchers on the standard engine

Preparing an expression for the standard engine touches nothing but the log. What it gives is said
here without the log (`prepared`): the options settle, the markers and the expression are texts, and
the engine compiles the pattern to its atoms. So an expression is refused only for its options or for
something that is no text.
-/

namespace FieldPattern

open FieldPattern.Action (Ends)

variable {m : Type → Type} [Monad m] [LawfulMonad m]

theorem Options.resolveLogged_ends (spec : Value) :
    (resolveLogged spec : Action m Options).Ends (resolve spec)
      (Markers.warning? (markerSpec spec)).toList := by
  rw [resolveLogged]
  cases resolve spec with
  | ok options =>
    cases Markers.warning? (markerSpec spec) with
    | none => exact Ends.pure options
    | some w => exact (Ends.record w).bind (Ends.pure options)
  | error e =>
    cases Markers.warning? (markerSpec spec) with
    | none => exact Ends.throw e
    | some w => exact (Ends.record w).bind (Ends.throw e)

/-- Compiling gives the text of the expression with its pattern, once the texts are there. -/
theorem Compiled.ofValue_ends (expression : Value) (markers : Markers) (strict : Bool) :
    ∃ records, (ofValue expression markers strict : Action m (String × Compiled)).Ends
      ((expressionTexts expression markers).map fun t =>
        (t.1, Compiled.ofText strict t.2.1 t.2.2 t.1.toList)) records := by
  rw [ofValue]
  cases htexts : expressionTexts expression markers with
  | error e =>
    have hends : (MonadExcept.ofExcept (.error e) :
      Action m (String × List Char × List Char)).Ends (.error e) [] := Ends.ofExcept _
    exact ⟨[], hends.bind_error⟩
  | ok t =>
    have hends : (MonadExcept.ofExcept (.ok t) :
      Action m (String × List Char × List Char)).Ends (.ok t) [] := Ends.ofExcept _
    exact ⟨_, hends.bind ((Ends.record _).bind (Ends.pure _))⟩

namespace Matcher

/-- The matcher of a text with settled options and markers, on the standard engine. -/
def ofTexts (settled : Options) (text : String) (left right : List Char) : Matcher m :=
  let compiled := Compiled.ofText settled.strict.truthy left right text.toList
  ⟨text, settled, compiled, Engine.regexOf {} compiled.atoms⟩

/-- What preparing an expression for the standard engine gives. -/
def prepared (expression options : Value) : Except Error (Matcher m) :=
  match Options.resolve options with
  | .error e => .error e
  | .ok settled =>
    (expressionTexts expression settled.markers).map fun t => ofTexts settled t.1 t.2.1 t.2.2

omit [LawfulMonad m] in
theorem prepared_eq_ok_iff {expression options : Value} {x : Matcher m} :
    prepared expression options = .ok x ↔
      ∃ settled text left right, Options.resolve options = .ok settled ∧
        expressionTexts expression settled.markers = .ok (text, left, right) ∧
          x = ofTexts settled text left right := by
  rw [prepared]
  constructor
  · intro h
    cases hresolve : Options.resolve options with
    | error e =>
      rw [hresolve] at h
      cases h
    | ok settled =>
      rw [hresolve] at h
      obtain ⟨t, htexts, rfl⟩ := map_eq_ok_iff.1 h
      exact ⟨settled, t.1, t.2.1, t.2.2, rfl, htexts, rfl⟩
  · rintro ⟨settled, text, left, right, hresolve, htexts, rfl⟩
    rw [hresolve]
    dsimp only
    rw [htexts]
    rfl

omit [LawfulMonad m] in
theorem choose_none_compile (c : Compiled) :
    (Engine.choose (none : Option (Engine m))).compile c.pattern =
      pure (.ok (Engine.regexOf {} c.atoms)) :=
  Compiled.compile_pattern {} c

/-- Preparing an expression does nothing but what is said by `prepared`, and write records. -/
theorem create_ends (expression options : Value) :
    ∃ records, (create none expression options : Action m (Matcher m)).Ends
      (prepared expression options) records := by
  have hoptions := Options.resolveLogged_ends (m := m) options
  rw [create, prepared]
  cases hresolve : Options.resolve options with
  | error e =>
    rw [hresolve] at hoptions
    exact ⟨_, hoptions.bind_error⟩
  | ok settled =>
    rw [hresolve] at hoptions
    obtain ⟨records, hcompiled⟩ :=
      Compiled.ofValue_ends (m := m) expression settled.markers settled.strict.truthy
    dsimp only
    cases htexts : expressionTexts expression settled.markers with
    | error e =>
      rw [htexts] at hcompiled
      exact ⟨_, hoptions.bind hcompiled.bind_error⟩
    | ok t =>
      rw [htexts] at hcompiled
      exact ⟨_, hoptions.bind (hcompiled.bind
        ((Ends.perform (choose_none_compile _)).bind (Ends.pure _)))⟩

/-- A matcher is prepared exactly if it is the one that `prepared` says. -/
theorem create_report_eq_ok_iff {expression options : Value} {x : Matcher Id} :
    (∃ log, (create none expression options : Action Id (Matcher Id)).report = (.ok x, log)) ↔
      prepared expression options = .ok x := by
  obtain ⟨records, hends⟩ := create_ends (m := Id) expression options
  constructor
  · rintro ⟨log, hlog⟩
    exact (congrArg Prod.fst (hends.eq_of_report hlog)).symm
  · intro h
    rw [h] at hends
    exact ⟨records, hends.report⟩

end Matcher
end FieldPattern
