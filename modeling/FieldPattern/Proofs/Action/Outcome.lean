import FieldPattern.Error

/-!
# Outcomes of actions

An action *ends* in an outcome and with some records if, whatever was written before, it leaves the
underlying monad alone, writes these records and stops with this outcome. What most actions of a
matcher do is of this kind. The lemmas follow the ways to build actions, so that the outcome of an
action is read off its text. An action that *asks* turns to the underlying monad once and ends by what
it gets there.

An outcome that is put together from others is a success if all of these are, and else it is the first
error among them.
-/

namespace FieldPattern

/-! ## Successes and errors -/

section Success

variable {ε α β : Type} {r : Except ε α}

theorem bind_eq_ok_iff {f : α → Except ε β} {b : β} :
    (r >>= f) = .ok b ↔ ∃ a, r = .ok a ∧ f a = .ok b := by
  cases r with
  | error e =>
    constructor
    · intro h
      cases h
    · rintro ⟨a, ha, -⟩
      cases ha
  | ok a =>
    constructor
    · intro h
      exact ⟨a, rfl, h⟩
    · rintro ⟨_, ⟨⟩, h⟩
      exact h

theorem bind_eq_error_iff {f : α → Except ε β} {e : ε} :
    (r >>= f) = .error e ↔ r = .error e ∨ ∃ a, r = .ok a ∧ f a = .error e := by
  cases r with
  | error e' =>
    constructor
    · intro h
      cases h
      exact Or.inl rfl
    · rintro (h | ⟨a, ha, -⟩)
      · cases h
        rfl
      · cases ha
  | ok a =>
    constructor
    · intro h
      exact Or.inr ⟨a, rfl, h⟩
    · rintro (h | ⟨_, ⟨⟩, h⟩)
      · cases h
      · exact h

theorem map_eq_ok_iff {f : α → β} {b : β} : r.map f = .ok b ↔ ∃ a, r = .ok a ∧ f a = b := by
  cases r with
  | error e =>
    constructor
    · intro h
      cases h
    · rintro ⟨a, ha, -⟩
      cases ha
  | ok a =>
    constructor
    · intro h
      exact ⟨a, rfl, Except.ok.inj h⟩
    · rintro ⟨_, ⟨⟩, rfl⟩
      rfl

theorem exists_eq_ok_of_mapM {f : α → Except ε β} {xs : List α} {ys : List β}
    (h : xs.mapM f = .ok ys) : ∀ y ∈ ys, ∃ x, f x = .ok y := by
  induction xs generalizing ys with
  | nil =>
    cases h
    nofun
  | cons x xs ih =>
    rw [List.mapM_cons] at h
    obtain ⟨y, hy, h⟩ := bind_eq_ok_iff.1 h
    obtain ⟨rest, hrest, h⟩ := bind_eq_ok_iff.1 h
    cases h
    rintro z hz
    rcases List.mem_cons.1 hz with rfl | hz
    · exact ⟨x, hy⟩
    · exact ih hrest z hz

theorem eq_error_of_map {f : α → β} {e : ε} (h : r.map f = .error e) : r = .error e := by
  cases r with
  | error e' =>
    cases h
    rfl
  | ok a => cases h

end Success

/-! ## Actions -/

namespace Action

variable {m : Type → Type} [Monad m] {α β : Type}

/-- The action writes these records and stops with this outcome, and does nothing else. -/
def Ends (x : Action m α) (outcome : Except Error α) (records : Log) : Prop :=
  ∀ log : Log, x.run.run log = pure (outcome, log ++ records)

namespace Ends

variable {x : Action m α} {outcome : Except Error α} {records : Log}

theorem report (h : x.Ends outcome records) : x.report = pure (outcome, records) := by
  have hrun := h []
  rw [List.nil_append] at hrun
  exact hrun

theorem pure (a : α) : (pure a : Action m α).Ends (.ok a) [] := by
  intro log
  rw [List.append_nil]
  rfl

theorem throw (e : Error) : (throw e : Action m α).Ends (.error e) [] := by
  intro log
  rw [List.append_nil]
  rfl

theorem ofExcept (r : Except Error α) :
    (MonadExcept.ofExcept r : Action m α).Ends r [] := by
  cases r with
  | ok a => exact pure a
  | error e => exact throw e

variable [LawfulMonad m]

theorem record (r : LogRecord) : (record r : Action m Unit).Ends (.ok ()) [r] := by
  intro log
  show (Pure.pure ((), log ++ [r]) : m (Unit × Log)) >>=
    (fun written => Pure.pure (Except.ok written.1, written.2)) = _
  rw [pure_bind]

/-- An action of the underlying monad that does nothing there but give a value. -/
theorem perform {y : m α} {a : α} (h : y = Pure.pure a) : (perform y).Ends (.ok a) [] := by
  intro log
  simp [Action.perform, h]

theorem bind {a : α} {f : α → Action m β} {last : Except Error β} {more : Log}
    (hx : x.Ends (.ok a) records) (hf : (f a).Ends last more) :
    (x >>= f).Ends last (records ++ more) := by
  intro log
  have hrun := hx log
  simp only [ExceptT.run_bind, StateT.run_bind, hrun, pure_bind, hf (log ++ records),
    List.append_assoc]

theorem bind_error {e : Error} {f : α → Action m β} (hx : x.Ends (.error e) records) :
    (x >>= f).Ends (.error e) records := by
  intro log
  have hrun := hx log
  simp only [ExceptT.run_bind, StateT.run_bind, hrun, pure_bind, StateT.run_pure]

/-- Writing records one after another. -/
theorem recordAll (records : Log) :
    (forIn records PUnit.unit fun r _ => do
      Action.record r
      return .yield PUnit.unit : Action m PUnit).Ends (.ok .unit) records := by
  induction records with
  | nil => exact pure PUnit.unit
  | cons r records ih =>
    have hfirst : (do
        Action.record r
        return .yield PUnit.unit : Action m (ForInStep PUnit)).Ends (.ok (.yield .unit)) [r] :=
      (record r).bind (pure _)
    rw [List.forIn_cons]
    exact hfirst.bind ih

/-- Doing something to the value of an action. -/
theorem map (f : α → β) (hx : x.Ends outcome records) :
    (x >>= fun a => Pure.pure (f a)).Ends (outcome.map f) records := by
  cases outcome with
  | error e => exact hx.bind_error
  | ok a =>
    have hvalue : (Pure.pure (f a) : Action m β).Ends (.ok (f a)) [] := pure (f a)
    have hends : (x >>= fun a => Pure.pure (f a)).Ends (.ok (f a)) (records ++ []) :=
      bind hx hvalue
    rwa [List.append_nil] at hends

end Ends

/-! ## Asking the underlying monad -/

/-- The action does `y` in the underlying monad first, and ends by what this gives. -/
def Asks {γ : Type} (x : Action m α) (y : m γ) (outcome : γ → Except Error α)
    (records : γ → Log) : Prop :=
  ∀ log : Log, x.run.run log = y >>= fun c => Pure.pure (outcome c, log ++ records c)

namespace Asks

variable [LawfulMonad m] {γ : Type} {x : Action m α} {y : m γ} {outcome : γ → Except Error α}
  {records : γ → Log}

omit [LawfulMonad m] in
theorem report (h : x.Asks y outcome records) :
    x.report = y >>= fun c => Pure.pure (outcome c, records c) := by
  have hrun := h []
  simp only [List.nil_append] at hrun
  exact hrun

theorem perform {f : γ → Action m α} (h : ∀ c, (f c).Ends (outcome c) (records c)) :
    (perform y >>= f).Asks y outcome records := by
  intro log
  simp only [Action.perform, ExceptT.run_bind, ExceptT.run_mk, StateT.run_bind, StateT.run_lift,
    bind_assoc, pure_bind]
  exact bind_congr fun c => h c log

/-- What comes before and ends well only adds its records. -/
theorem after {a : β} {before : Log} {z : Action m β} {f : β → Action m α}
    (hz : z.Ends (.ok a) before) (hf : (f a).Asks y outcome records) :
    (z >>= f).Asks y outcome fun c => before ++ records c := by
  intro log
  have hrun := hz log
  simp only [ExceptT.run_bind, StateT.run_bind, hrun, pure_bind, hf (log ++ before),
    List.append_assoc]

/-- Doing something to the value of an action. -/
theorem map (f : α → β) (hx : x.Asks y outcome records) :
    (x >>= fun a => Pure.pure (f a)).Asks y (fun c => (outcome c).map f) records := by
  intro log
  have hrun := hx log
  simp only [ExceptT.run_bind, StateT.run_bind, hrun, bind_assoc, pure_bind]
  apply bind_congr
  intro c
  cases outcome c <;> rfl

/-- What the underlying monad gives may be put in another form before it is looked at. -/
theorem reading {δ : Type} (f : γ → δ) {outcome : δ → Except Error α} {records : δ → Log}
    (hx : x.Asks y (fun c => outcome (f c)) fun c => records (f c)) :
    x.Asks (y >>= fun c => Pure.pure (f c)) outcome records := by
  intro log
  have hrun := hx log
  simp only [hrun, bind_assoc, pure_bind]

end Asks

/-- What is done after the underlying monad was asked is done by what it gave. -/
theorem report_perform_bind [LawfulMonad m] {γ : Type} (y : m γ) (f : γ → Action m α) :
    (perform y >>= f).report = y >>= fun c => (f c).report := by
  simp only [report, perform, ExceptT.run_bind, ExceptT.run_mk, StateT.run_bind, StateT.run_lift,
    bind_assoc, pure_bind]

/-- Doing something to the value of an action leaves its records and its error as they are. -/
theorem report_map [LawfulMonad m] (f : α → β) (x : Action m α) :
    (x >>= fun a => Pure.pure (f a)).report = (fun r => (r.1.map f, r.2)) <$> x.report := by
  rw [report, report, ExceptT.run_bind, StateT.run_bind, map_eq_pure_bind]
  apply bind_congr
  rintro ⟨r, log⟩
  cases r <;> rfl

/-- In a monad without effects an action has one outcome. -/
theorem Ends.eq_of_report {x : Action Id α} {outcome : Except Error α} {records : Log}
    {result : Except Error α × Log} (h : x.Ends outcome records) (hx : x.report = result) :
    result = (outcome, records) := by
  rw [← hx, h.report]
  rfl

end Action
end FieldPattern
