import BenchCompare.Proofs.Command.Stages

/-! # The course of a run

  The words of a command line ask for a comparison, or the library does itself what
  they ask for.  What a comparison comes to decides how its run ends.

  Main statements: `run_of_told`, `run_of_untold` and `run_of_stops` for the runs that
  ask for a comparison, `run_of_ended` and `run_of_thrown` for all others.
-/

namespace BenchCompare.Command

open Log (Session)

/-- The words of a command line ask for a comparison. -/
def Asks (env : Platform) (fs : FileSystem) (args : List Text) (r : Request) : Prop :=
  env.read fs args = .request r

section

variable {env : Platform} {fs : FileSystem} {args : List Text} {r : Request}

theorem run_of_ended {exitCode : Nat} {printed shown : Text}
    (h : env.read fs args = .ended exitCode printed shown) :
    run env fs args = ⟨exitCode, printed, shown, fs, none⟩ := by
  unfold run
  rw [h]

theorem run_of_thrown {e : Thrown} (h : env.read fs args = .thrown e) :
    run env fs args = ⟨1, "", "", fs, some (.library e)⟩ := by
  unfold run
  rw [h]

theorem run_of_asks (h : Asks env fs args r) : run env fs args =
    .ofWork env (ending (compare env r) (.start fs)).1 (ending (compare env r) (.start fs)).2 := by
  unfold run
  rw [show env.read fs args = .request r from h]
  rfl

section

variable {line : Option Text} {s : Session}

theorem run_of_yields (h : Asks env fs args r) (hcompare : Yields (compare env r) (.start fs) line s) :
    run env fs args = .ofWork env (.ok line) s := by
  rw [run_of_asks h, show ending (compare env r) (.start fs) = (.ok line, s) from hcompare]

/-- A comparison that was made ends well if its line can be encoded. -/
theorem run_of_told (h : Asks env fs args r) (hcompare : Yields (compare env r) (.start fs) line s)
    {printed : String} (hprinted : printedLine env line = printed) :
    run env fs args = ⟨0, printed, s.console, s.files, none⟩ := by
  rw [run_of_yields h hcompare]
  unfold Outcome.ofWork
  dsimp only
  rw [hprinted, Text.encode_ofString]

/-- Otherwise nothing is printed, and the run fails. -/
theorem run_of_untold (h : Asks env fs args r) (hcompare : Yields (compare env r) (.start fs) line s)
    {fault : Text.EncodeFault} (hprinted : (printedLine env line).encode = .error fault) :
    run env fs args = ⟨1, "", s.console, s.files, some (.printed fault)⟩ := by
  rw [run_of_yields h hcompare]
  unfold Outcome.ofWork
  dsimp only
  rw [hprinted]

/-- A comparison that was made has either end. -/
theorem told_or_untold (env : Platform) (line : Option Text) :
    (∃ printed : String, printedLine env line = printed) ∨
      ∃ fault, (printedLine env line).encode = .error fault := by
  cases hencode : (printedLine env line).encode with
  | ok printed => exact .inl ⟨printed, Text.encode_eq_ok_iff.mp hencode⟩
  | error fault => exact .inr ⟨fault, rfl⟩

end

theorem run_of_stops {e : Stop} {s : Session} (h : Asks env fs args r)
    (hcompare : Stops (compare env r) (.start fs) e s) :
    run env fs args = .ofWork env (.error e) s := by
  rw [run_of_asks h, show ending (compare env r) (.start fs) = (.error e, s) from hcompare]

end

end BenchCompare.Command
