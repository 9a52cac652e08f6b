import SheetInspector.Log.Basic

set_option autoImplicit false

/-! # Results of computations that log

A computation that logs is run on the records that are there already. A sequence of such
computations goes on where the first one succeeds, with the records it left, and ends where it
fails; what was logged before is never taken back.
-/

namespace SheetInspector.Logged

variable {ε α β : Type}

theorem run_bind_of_ok {x : Logged ε α} {log log' : List LogRecord} {a : α}
    (h : x.run log = (.ok a, log')) (f : α → Logged ε β) : (x >>= f).run log = (f a).run log' := by
  show ExceptT.bindCont f (x.run log).1 (x.run log).2 = (f a).run log'
  rw [h]
  rfl

theorem run_bind_of_error {x : Logged ε α} {log log' : List LogRecord} {e : ε}
    (h : x.run log = (.error e, log')) (f : α → Logged ε β) :
    (x >>= f).run log = (.error e, log') := by
  show ExceptT.bindCont f (x.run log).1 (x.run log).2 = (.error e, log')
  rw [h]
  rfl

/-- A sequence succeeds only if both of its parts do, one after the other. -/
theorem run_bind_eq_ok {x : Logged ε α} {f : α → Logged ε β} {log log' : List LogRecord} {b : β}
    (h : (x >>= f).run log = (.ok b, log')) :
    ∃ a mid, x.run log = (.ok a, mid) ∧ (f a).run mid = (.ok b, log') := by
  cases hx : x.run log with
  | mk result mid =>
      cases result with
      | ok a => exact ⟨a, mid, rfl, (run_bind_of_ok hx f).symm.trans h⟩
      | error e =>
          rw [run_bind_of_error hx f] at h
          cases h

theorem run_ofExcept (x : Except ε α) (log : List LogRecord) :
    (ofExcept x : Logged ε α).run log = (x, log) := by
  cases x with
  | ok a => rfl
  | error e => rfl

/-- Replacing faults by others changes nothing else. -/
theorem run_mapFault {ε' : Type} (f : ε → ε') (x : Logged ε α) (log : List LogRecord) :
    (x.mapFault f).run log = ((x.run log).1.mapError f, (x.run log).2) := by
  show mapFault f x log = ((x log).1.mapError f, (x log).2)
  unfold mapFault
  obtain ⟨outcome, records⟩ := x log
  cases outcome with
  | ok a => rfl
  | error e => rfl

theorem run_mapFault_eq_ok_iff {ε' : Type} {f : ε → ε'} {x : Logged ε α} {log log' : List LogRecord}
    {a : α} : (x.mapFault f).run log = (.ok a, log') ↔ x.run log = (.ok a, log') := by
  rw [run_mapFault]
  obtain ⟨outcome, records⟩ := x.run log
  cases outcome with
  | ok b =>
      constructor
      · intro h
        cases h
        rfl
      · intro h
        cases h
        rfl
  | error e =>
      constructor
      · intro h
        cases h
      · intro h
        cases h

theorem result_mapFault {ε' : Type} (f : ε → ε') (x : Logged ε α) :
    (x.mapFault f).result = x.result.mapError f := by
  show ((x.mapFault f).run []).1 = (x.run []).1.mapError f
  rw [run_mapFault]

/-- What a computation ends in and logs, where another one that does not log goes on with its
result. -/
theorem outcome_bind_ofExcept (x : Logged ε α) (f : α → Except ε β) :
    (x >>= fun a => ofExcept (f a)).outcome = (x.result.bind f, x.outcome.2) := by
  have houtcome {γ : Type} (y : Logged ε γ) :
      y.outcome = ((y.run []).1, (y.run []).2.reverse) := rfl
  rw [result, houtcome, houtcome]
  cases hx : x.run [] with
  | mk result records =>
      cases result with
      | ok a =>
          rw [run_bind_of_ok hx, run_ofExcept]
          rfl
      | error e =>
          rw [run_bind_of_error hx]
          rfl

theorem result_eq_ok_iff {x : Logged ε α} {a : α} :
    x.result = .ok a ↔ ∃ log, x.run [] = (.ok a, log) := by
  constructor
  · intro h
    exact ⟨(x.run []).2, Prod.ext h rfl⟩
  · rintro ⟨log, h⟩
    show (x.run []).1 = .ok a
    rw [h]

/-! ## Computations that do not look at the log -/

/-- Whether what a computation ends in does not depend on what has been logged before. -/
def Steady (x : Logged ε α) : Prop := ∀ log, ∃ log', x.run log = (x.result, log')

theorem Steady.run_of_result {x : Logged ε α} (h : x.Steady) {a : α} (hx : x.result = .ok a)
    (log : List LogRecord) : ∃ log', x.run log = (.ok a, log') := by
  obtain ⟨log', hrun⟩ := h log
  exact ⟨log', hrun.trans (by rw [hx])⟩

theorem steady_ofExcept (x : Except ε α) : (ofExcept x).Steady := by
  intro log
  refine ⟨log, ?_⟩
  have hresult : (ofExcept x).result = x := congrArg Prod.fst (run_ofExcept x [])
  rw [run_ofExcept, hresult]

theorem steady_pure (a : α) : (pure a : Logged ε α).Steady := steady_ofExcept (.ok a)

theorem steady_throw (e : ε) : (throw e : Logged ε α).Steady := steady_ofExcept (.error e)

theorem steady_log (record : LogRecord) : (log record : Logged ε Unit).Steady :=
  fun records => ⟨record :: records, rfl⟩

/-- **A sequence does not look at the log if neither of its parts does.** -/
theorem Steady.bind {x : Logged ε α} {f : α → Logged ε β} (hx : x.Steady)
    (hf : ∀ a, (f a).Steady) : (x >>= f).Steady := by
  intro log
  obtain ⟨first, hfirst⟩ := hx []
  obtain ⟨mid, hmid⟩ := hx log
  cases hresult : x.result with
  | error e =>
      rw [hresult] at hfirst hmid
      have hfails : (x >>= f).result = .error e := by
        show ((x >>= f).run []).1 = .error e
        rw [run_bind_of_error hfirst f]
      exact ⟨mid, (run_bind_of_error hmid f).trans (by rw [hfails])⟩
  | ok a =>
      rw [hresult] at hfirst hmid
      -- what follows starts from two different logs, but ends in the same
      obtain ⟨last, hlast⟩ := hf a first
      obtain ⟨last', hlast'⟩ := hf a mid
      have hends : (x >>= f).result = (f a).result := by
        show ((x >>= f).run []).1 = (f a).result
        rw [(run_bind_of_ok hfirst f).trans hlast]
      exact ⟨last', (run_bind_of_ok hmid f).trans (by rw [hlast', hends])⟩

theorem Steady.mapFault {ε' : Type} {x : Logged ε α} (hx : x.Steady) (f : ε → ε') :
    (x.mapFault f).Steady := by
  intro log
  obtain ⟨log', hlog⟩ := hx log
  exact ⟨log', by rw [run_mapFault, hlog, result_mapFault]⟩

/-- A message before a computation does not change what it ends in. -/
theorem Steady.result_debug_bind {x : Logged ε α} (h : x.Steady) (source message : String) :
    (debug source message >>= fun _ => x).result = x.result := by
  obtain ⟨log', hrun⟩ := h [⟨.debug, source, message⟩]
  show (x.run [⟨.debug, source, message⟩]).1 = x.result
  rw [hrun]

end SheetInspector.Logged
