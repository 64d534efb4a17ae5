/-
  Commands in a session.

  A command on a host that keeps a state is a function of the state: it fails or
  succeeds, and leaves a state.  Its parts run one after the other
  (`Host.run_bind`), up to the first that fails.

  * `Session.check_run`: a check of a file that can be read.
-/
import SoleExport.Command.Run
import SoleExport.Directory

namespace SoleExport

/-! ## Parts of commands -/

namespace Host

theorem run_bind {σ α β : Type} (part : Part (StateM σ) α) (next : α → Part (StateM σ) β) (s : σ) :
    (part >>= next).run s =
      match part.run s with
      | (.ok a, s') => (next a).run s'
      | (.error e, s') => (.error e, s') := by
  simp only [ExceptT.run, bind, ExceptT.bind, ExceptT.mk, StateT.bind, ExceptT.bindCont]
  rcases part s with ⟨_ | a, s'⟩ <;> rfl

theorem run_use {σ α : Type} (action : StateM σ (Except SystemError α))
    (failure : SystemError → Failure) (s : σ) :
    (use action failure).run s =
      match action s with
      | (.ok a, s') => (.ok a, s')
      | (.error e, s') => (.error (failure e), s') := by
  simp only [use, ExceptT.run, bind, ExceptT.bind, ExceptT.mk, StateT.bind, ExceptT.bindCont,
    liftM, monadLift, MonadLift.monadLift, ExceptT.lift, Functor.map, StateT.map]
  rcases action s with ⟨_ | a, s'⟩ <;> rfl

end Host

/-! ## Checks -/

namespace Session

variable {s : Session} {input source : String} {p : Parsed}

theorem parseInput_run (hread : s.directory.read input = .ok source)
    (hparse : parse input source = .ok p) : (host.parseInput input).run s = (.ok p, s) := by
  rw [Host.parseInput, Host.run_bind, Host.run_use]
  simp only [host, hread, hparse]
  rfl

/-- **A check fails if its verdict is to refuse the file**, and else adds the
    wording of the verdict to the report. -/
theorem check_run (hread : s.directory.read input = .ok source)
    (hparse : parse input source = .ok p) (allowNamed : Bool) :
    (host.check input allowNamed).run s =
      let verdict := (SourceFile.mk input p.module).verdict allowNamed
      if verdict = .refused then (.error (.refused (verdict.message input)), s)
      else (.ok (), { s with reported := s.reported ++ [verdict.message input] }) := by
  rw [Host.check, Host.run_bind, parseInput_run hread hparse]
  dsimp only
  rcases (SourceFile.mk input p.module).verdict allowNamed <;> rfl

end Session

end SoleExport
