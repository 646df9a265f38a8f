import BenchCompare.Command.Run
import BenchCompare.Proofs.Log.Files

/-! # How work goes

  A piece of work starts in a session and ends in one, with a value or at a stop.
  Work that consists of two pieces goes through both of them, or stops in one.

  * `Yields w s a s'`: `w` goes from the session `s` to `s'` with the value `a`.
  * `Stops w s e s'`: `w` stops in the session `s'` because of `e`.
  * `Keeps P w`: sessions with the property `P` have it still when `w` ends.

  There is one lemma for each way to make work of pieces; with them the stages of
  a comparison are taken apart and need not be unfolded again.
-/

namespace BenchCompare.Command

open Log (Session)

variable {α β : Type}

/-! ### Pieces of work -/

/-- How work ends that starts in a session. -/
def ending (w : Work α) (s : Session) : Except Stop α × Session := w.run.run s

/-- Work ends with a value, in a session. -/
def Yields (w : Work α) (s : Session) (a : α) (s' : Session) : Prop := ending w s = (.ok a, s')

/-- Work stops, in a session. -/
def Stops (w : Work α) (s : Session) (e : Stop) (s' : Session) : Prop := ending w s = (.error e, s')

section

variable {s s' s₁ s₂ : Session} {a : α} {b : β} {e : Stop} {w : Work α} {f : α → Work β}

theorem yields_or_stops (w : Work α) (s : Session) :
    (∃ a s', Yields w s a s') ∨ ∃ e s', Stops w s e s' := by
  unfold Yields Stops
  rcases hrun : ending w s with ⟨a | e, s'⟩
  · exact .inr ⟨_, _, rfl⟩
  · exact .inl ⟨_, _, rfl⟩

theorem Yields.unique {a' : α} (h : Yields w s a s₁) (h' : Yields w s a' s₂) : a = a' ∧ s₁ = s₂ := by
  have heq := h.symm.trans h'
  simpa using heq

theorem ending_bind (w : Work α) (f : α → Work β) (s : Session) :
    ending (w >>= f) s =
      match ending w s with
      | (.ok a, s') => ending (f a) s'
      | (.error e, s') => (.error e, s') := by
  unfold ending ExceptT.run StateT.run
  simp only [bind, ExceptT.bind, ExceptT.mk, StateT.bind, ExceptT.bindCont]
  rcases w s with ⟨a | e, s'⟩ <;> rfl

/-- Two pieces of work end if both do. -/
theorem yields_bind :
    Yields (w >>= f) s b s' ↔ ∃ a s₁, Yields w s a s₁ ∧ Yields (f a) s₁ b s' := by
  unfold Yields
  rw [ending_bind]
  constructor
  · intro h
    split at h
    · next a s₁ hw => exact ⟨a, s₁, hw, h⟩
    · cases h
  · rintro ⟨a, s₁, hw, hf⟩
    rw [hw]
    exact hf

/-- Two pieces of work stop if one of them does. -/
theorem stops_bind :
    Stops (w >>= f) s e s' ↔ Stops w s e s' ∨ ∃ a s₁, Yields w s a s₁ ∧ Stops (f a) s₁ e s' := by
  unfold Yields Stops
  rw [ending_bind]
  constructor
  · intro h
    split at h
    · next a s₁ hw => exact .inr ⟨a, s₁, hw, h⟩
    · next hw =>
      cases h
      exact .inl hw
  · rintro (hw | ⟨a, s₁, hw, hf⟩)
    · rw [hw]
    · rw [hw]
      exact hf

theorem yields_pure {a' : α} : Yields (pure a) s a' s' ↔ a' = a ∧ s' = s := by
  show ((.ok a, s) : Except Stop α × Session) = (.ok a', s') ↔ _
  simp [eq_comm]

theorem stops_pure : ¬ Stops (pure a : Work α) s e s' := by
  intro h
  cases h

theorem yields_throw : ¬ Yields (throw e : Work α) s a s' := by
  intro h
  cases h

theorem stops_throw {e' : Stop} : Stops (throw e : Work α) s e' s' ↔ e' = e ∧ s' = s := by
  show ((.error e, s) : Except Stop α × Session) = (.error e', s') ↔ _
  simp [eq_comm]

theorem yields_get_bind {f : Session → Work β} : Yields (get >>= f) s b s' ↔ Yields (f s) s b s' :=
  Iff.rfl

theorem stops_get_bind {f : Session → Work β} : Stops (get >>= f) s e s' ↔ Stops (f s) s e s' :=
  Iff.rfl

theorem yields_set {s₀ : Session} {u : Unit} : Yields (set s₀ : Work Unit) s u s' ↔ s' = s₀ := by
  show ((.ok (), s₀) : Except Stop Unit × Session) = (.ok u, s') ↔ _
  simp [eq_comm]

theorem stops_set {s₀ : Session} : ¬ Stops (set s₀ : Work Unit) s e s' := by
  intro h
  cases h

theorem yields_record_bind {env : Platform} {rs : List Log.Record} {f : Unit → Work β} :
    Yields (record env rs >>= f) s b s' ↔ Yields (f ()) (s.logAll env.toContext rs) b s' := Iff.rfl

theorem stops_record_bind {env : Platform} {rs : List Log.Record} {f : Unit → Work β} :
    Stops (record env rs >>= f) s e s' ↔ Stops (f ()) (s.logAll env.toContext rs) e s' := Iff.rfl

theorem yields_stopIf {c : Prop} [Decidable c] {f : Unit → Work β} :
    Yields (if c then throw e >>= f else f ()) s b s' ↔ ¬ c ∧ Yields (f ()) s b s' := by
  split
  · next hc =>
    refine iff_of_false ?_ fun h => h.1 hc
    rw [yields_bind]
    rintro ⟨_, _, hthrow, -⟩
    exact yields_throw hthrow
  · next hc => simp [hc]

theorem stops_stopIf {e' : Stop} {c : Prop} [Decidable c] {f : Unit → Work β} :
    Stops (if c then throw e >>= f else f ()) s e' s' ↔
      (c ∧ e' = e ∧ s' = s) ∨ ¬ c ∧ Stops (f ()) s e' s' := by
  split
  · next hc =>
    rw [stops_bind, stops_throw]
    simp [hc, yields_throw]
  · next hc => simp [hc]

theorem yields_orFail {ε : Type} {failure : ε → Failure} {x : Except ε α} :
    Yields (orFail failure x) s a s' ↔ x = .ok a ∧ s' = s := by
  cases x with
  | ok a' => exact yields_pure.trans (by simp [eq_comm])
  | error fault => exact iff_of_false yields_throw (by simp)

theorem stops_orFail {ε : Type} {failure : ε → Failure} {x : Except ε α} :
    Stops (orFail failure x) s e s' ↔
      ∃ fault, x = .error fault ∧ e = .failed (failure fault) ∧ s' = s := by
  cases x with
  | ok a' => exact iff_of_false stops_pure (by simp)
  | error fault => exact stops_throw.trans (by simp)

end

/-! ### Properties that work keeps -/

/-- Sessions with a property have it still when work ends. -/
def Keeps (P : Session → Prop) (w : Work α) : Prop := ∀ s, P s → P (ending w s).2

namespace Keeps

variable {P : Session → Prop} {s s' : Session} {a : α} {e : Stop} {w : Work α} {f : α → Work β}

theorem yields (h : Keeps P w) (hs : P s) (hw : Yields w s a s') : P s' := by
  have hkeeps := h s hs
  rw [show ending w s = (.ok a, s') from hw] at hkeeps
  exact hkeeps

theorem stops (h : Keeps P w) (hs : P s) (hw : Stops w s e s') : P s' := by
  have hkeeps := h s hs
  rw [show ending w s = (.error e, s') from hw] at hkeeps
  exact hkeeps

theorem bind (hw : Keeps P w) (hf : ∀ a, Keeps P (f a)) : Keeps P (w >>= f) := by
  intro s hs
  have hkeeps := hw s hs
  rw [ending_bind]
  split
  · next a s' heq =>
    rw [heq] at hkeeps
    exact hf a s' hkeeps
  · next heq =>
    rw [heq] at hkeeps
    exact hkeeps

theorem pure (a : α) : Keeps P (Pure.pure a : Work α) := fun _ hs => hs

theorem throw (e : Stop) : Keeps P (MonadExcept.throw e : Work α) := fun _ hs => hs

theorem get : Keeps P (MonadState.get : Work Session) := fun _ hs => hs

theorem orFail {ε : Type} (failure : ε → Failure) (x : Except ε α) : Keeps P (orFail failure x) := by
  cases x with
  | ok a => exact pure a
  | error fault => exact throw _

theorem record {env : Platform} (h : ∀ s rs, P s → P (s.logAll env.toContext rs)) (rs : List Log.Record) :
    Keeps P (record env rs) := fun s hs => h s rs hs

theorem stopIf {c : Prop} [Decidable c] {f : Unit → Work β} (hf : Keeps P (f ())) (e : Stop) :
    Keeps P (if c then MonadExcept.throw e >>= f else f ()) := by
  split
  · exact fun _ hs => hs
  · exact hf

end Keeps

/-! ### Setting up -/

/-- Stops at the fault of a log file, if there is one. -/
def stopAtFault (fault? : Option FileSystem.FileFault) : Work Unit := do
  if let some fault := fault? then throw (.failed (.logFile fault))

section

variable {env : Platform} {s s' : Session} {e : Stop} {r : Request} {c : Settings}

theorem ending_setUp {setup : Log.Setup} {fault? : Option FileSystem.FileFault}
    (h : s.configure setup = (s', fault?)) :
    ending (setUp setup) s =
      (fault?.elim (.ok ()) fun fault => .error (.failed (.logFile fault)), s') := by
  have hrun : ending (setUp setup) s = ending (do
      set (s.configure setup).1
      stopAtFault (s.configure setup).2) s := rfl
  rw [hrun, h]
  cases fault? <;> rfl

theorem yields_setUp {setup : Log.Setup} {u : Unit} :
    Yields (setUp setup) s u s' ↔ s.configure setup = (s', none) := by
  unfold Yields
  rcases hconfigure : s.configure setup with ⟨s₁, fault?⟩
  rw [ending_setUp hconfigure]
  cases fault? <;> simp

theorem stops_setUp {setup : Log.Setup} : Stops (setUp setup) s e s' ↔
    ∃ fault, s.configure setup = (s', some fault) ∧ e = .failed (.logFile fault) := by
  unfold Stops
  rcases hconfigure : s.configure setup with ⟨s₁, fault?⟩
  rw [ending_setUp hconfigure]
  cases fault? with
  | none => simp
  | some fault =>
    constructor
    · rintro ⟨⟩
      exact ⟨fault, rfl, rfl⟩
    · rintro ⟨fault', ⟨⟩, rfl⟩
      rfl

end

end BenchCompare.Command
