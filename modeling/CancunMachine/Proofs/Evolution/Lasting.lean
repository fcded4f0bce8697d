import Mathlib.Tactic
import CancunMachine.Proofs.Evolution.Visits
import CancunMachine.Proofs.Rollback

/-!
# What lasts of a run

A frame that fails leaves nothing behind, so of the course of a frame only its own acts and the
children that succeeded last. `Lasting` is the course of a frame without the failed frames below it:
a property of what a successful frame leaves is proved once per act, once for the start of a child
and once for its end, and the failures need no argument of their own.
-/

namespace CancunMachine

open Ending

/-- A start that went through: the address of a new contract was claimed. -/
structure Begins (host : Host) (transfer : Transfer) (machine started : Machine) : Prop where
  starts : Starts host transfer machine started
  claims : machine.frame.invocation.kind.isCreation = true →
    started.substate.isCreated machine.frame.invocation.recipient = true

/-- The course of a frame without what has been taken back. The frames it has entered with success
are known to be among those that were `entered`. -/
inductive Lasting (host : Host) (entered : Invocation → Prop) : Machine → Machine → Prop
  | refl (machine : Machine) : Lasting host entered machine machine
  | act {start middle final : Machine} :
      Lasting host entered start middle → Act host middle final →
      Lasting host entered start final
  | kept {start middle started ended closed : Machine} {entry : Entry} {outcome : Outcome} :
      Lasting host entered start middle →
      entry.Legal host middle →
      entered entry.child.invocation →
      Begins host entry.transfer ((middle.entering entry.child).opened host) started →
      Lasting host entered started ended →
      outcome.isSuccess = true →
      Closes host outcome ended closed →
      Lasting host entered start (closed.resumed host middle.frame middle.suspended)
  | undone {start middle closed : Machine} {child : Frame} :
      Lasting host entered start middle →
      (middle.entering child).Restored closed →
      Lasting host entered start (closed.resumed host middle.frame middle.suspended)

/-- A successful frame from its entry to its exit, without what has been taken back. -/
inductive FrameLasts (host : Host) (entered : Invocation → Prop) (transfer : Transfer)
    (machine : Machine) (outcome : Outcome) : Machine → Prop
  | intro {started ended closed : Machine} :
      Begins host transfer (machine.opened host) started →
      Lasting host entered started ended →
      outcome.isSuccess = true →
      Closes host outcome ended closed →
      FrameLasts host entered transfer machine outcome closed

variable {host : Host} {entered : Invocation → Prop} {transfer : Transfer} {outcome : Outcome}

theorem Lasting.trans {start middle final : Machine} (first : Lasting host entered start middle)
    (second : Lasting host entered middle final) : Lasting host entered start final := by
  induction second with
  | refl => exact first
  | act _ acted inductionHypothesis => exact .act (inductionHypothesis first) acted
  | kept _ legal allowed begins lasts succeeds closes inductionHypothesis _ =>
      exact .kept (inductionHypothesis first) legal allowed begins lasts succeeds closes
  | undone _ restored inductionHypothesis => exact .undone (inductionHypothesis first) restored

theorem Acts.lasting {machine final : Machine} (acts : Acts host machine final) :
    Lasting host entered machine final := by
  induction acts with
  | refl => exact .refl machine
  | tail _ acted inductionHypothesis => exact .act inductionHypothesis acted

/-- What lasts of the course of a frame leaves the frame in its place. -/
theorem Lasting.samePlace {machine final : Machine} (lasts : Lasting host entered machine final) :
    machine.SamePlace final := by
  induction lasts with
  | refl => exact ⟨rfl, .refl _⟩
  | act _ acted inductionHypothesis => exact inductionHypothesis.trans acted.samePlace
  | kept _ _ _ _ _ _ _ inductionHypothesis _ => exact inductionHypothesis.trans ⟨rfl, .refl _⟩
  | undone _ _ inductionHypothesis => exact inductionHypothesis.trans ⟨rfl, .refl _⟩

/-- The end of a frame that succeeds hands its world and its additions to its parent. -/
theorem Closes.of_success {ended closed : Machine} (closes : Closes host outcome ended closed)
    (succeeds : outcome.isSuccess = true) :
    ended.world.commit = .ok closed.world ∧
      closed.substate = ended.substate.commitBackup := by
  cases closes with
  | kept world _ commits => exact ⟨commits, rfl⟩
  | undone world failed =>
      rw [succeeds] at failed
      cases failed

namespace Interpreter

/-- A start that ends well has gone through, and acts follow for a native contract only. -/
theorem begins_of_startFrame {machine final : Machine} {shown : Option Outcome}
    (done : startFrame host transfer machine = .ok shown final) :
    ∃ started, Begins host transfer machine started ∧ Acts host started final := by
  cases creates : machine.frame.invocation.kind.isCreation with
  | false =>
      rw [startFrame_of_call creates] at done
      obtain ⟨world, moves, acted, _⟩ := paying_eq_ok done
      refine ⟨_, ⟨.called world creates moves, fun impossible => ?_⟩, acted⟩
      rw [creates] at impossible
      cases impossible
  | true =>
      rw [startFrame_of_creation creates] at done
      obtain ⟨_, _, claimed, rest⟩ := bind_eq_ok.mp done
      obtain ⟨unused, rfl⟩ := claimAddress_eq_ok claimed
      obtain ⟨world, moves, acted, _⟩ := paying_eq_ok rest
      refine ⟨_, ⟨.created world creates unused moves, fun _ => ?_⟩, acted⟩
      simp [Substate.isCreated_addCreated]

theorem failFrame_eq_ok {cause : Failure} {machine final : Machine}
    (done : failFrame cause machine = .ok outcome final) : outcome.isSuccess = false := by
  unfold failFrame at done
  by_cases fatal : cause.endsMessage = true
  · simp only [if_pos fatal] at done
    cases done
  · simp only [if_neg fatal] at done
    cases reverts : cause.isRevert <;> simp only [reverts] at done <;> cases done <;> rfl

/-- A frame that stops with success may have stored its code, and nothing else. -/
theorem acts_of_stopFrame {machine final : Machine}
    (done : stopFrame host machine = .ok outcome final) (succeeds : outcome.isSuccess = true) :
    Acts host machine final := by
  cases creates : machine.frame.invocation.kind.isCreation with
  | false =>
      rw [stopFrame_of_call creates] at done
      cases done
      exact .refl
  | true =>
      have deposits : Orderly host (fun invocation => invocation.kind.isCreation = true) False True
          0 0 (depositCode host) := orderly_depositCode fun _ holds => holds
      cases deposited : depositCode host machine with
      | ok _ left =>
          rw [stopFrame_of_deposit creates deposited] at done
          cases done
          exact deposits.acts creates deposited
      | error cause left =>
          rw [stopFrame_of_refusal creates deposited] at done
          rw [failFrame_eq_ok done] at succeeds
          cases succeeds

/-- A frame that succeeds has begun, and its instructions have succeeded, if it has any. -/
theorem frameLasts_of_runFrame (plain : host.Plain) {body : Run Outcome}
    {machine final : Machine} (done : runFrame host body transfer machine = .ok outcome final)
    (succeeds : outcome.isSuccess = true)
    (lasts : ∀ {started ended}, startFrame host transfer (machine.opened host) = .ok none started →
      body started = .ok outcome ended → Lasting host entered started ended) :
    FrameLasts host entered transfer machine outcome final := by
  rw [runFrame_of_plain plain] at done
  obtain ⟨shown, ended, concluded, rest⟩ := bind_eq_ok.mp done
  obtain ⟨_, closed, exits, returned⟩ := bind_eq_ok.mp rest
  cases returned
  have closes : Closes host outcome ended final := by
    rcases exitFrame_cases host outcome ended with ⟨left, exited, closes⟩ | ⟨_, fails, _⟩
    · rw [exited] at exits
      cases exits
      exact closes
    · rw [fails] at exits
      cases exits
  cases starts : startFrame host transfer (machine.opened host) with
  | error cause started =>
      rw [concluding_of_error starts] at concluded
      rw [failFrame_eq_ok concluded] at succeeds
      cases succeeds
  | ok answer started =>
      obtain ⟨first, begins, acted⟩ := begins_of_startFrame starts
      rw [concluding_of_ok starts] at concluded
      cases answer with
      | some result =>
          cases concluded
          exact .intro begins acted.lasting succeeds closes
      | none => exact .intro begins (acted.lasting.trans (lasts starts concluded)) succeeds closes

/-- What lasts of an instruction, given what lasts of the child that it may have run. -/
theorem lasting_of_execute (plain : host.Plain) {body : Run Outcome}
    (concludes : Concludes host body) {opcode : Opcode} {machine final : Machine} {signal : Signal}
    (done : Instruction.execute host (runFrame host body) opcode machine = .ok signal final)
    (allowed : ∀ {entry ready}, Instruction.preparation host opcode machine =
      .ok (some entry) ready → entered entry.child.invocation)
    (lasts : ∀ {entry ready outcome started ended},
      Instruction.preparation host opcode machine = .ok (some entry) ready →
      startFrame host entry.transfer ((ready.entering entry.child).opened host) =
        .ok none started →
      body started = .ok outcome ended → outcome.isSuccess = true →
      Lasting host entered started ended) :
    Lasting host entered machine final := by
  have enters := enters_runFrame plain concludes
  cases Instruction.execute_courses plain enters done with
  | alone acts => exact acts.lasting
  | @around entry outcome ready closed prepares before ran after =>
      have legal := (Instruction.preparation_eq_some prepares).2.legal
      refine Lasting.trans ?_ after.lasting
      cases succeeds : outcome.isSuccess with
      | false => exact .undone before.lasting ((enters.runs ran).restored succeeds)
      | true =>
          cases frameLasts_of_runFrame plain ran succeeds fun starts ended =>
            lasts prepares starts ended succeeds with
          | intro begins within _ closes =>
              exact .kept before.lasting legal (allowed prepares) begins within succeeds closes

/-- What lasts of the instructions of a frame that succeeds. -/
theorem lasting_of_run (plain : host.Plain) {budget : Nat} {machine final : Machine}
    (done : run host budget machine = .ok outcome final) (succeeds : outcome.isSuccess = true)
    (allowed : ∀ invocation ∈ enteredBelow host budget machine, entered invocation) :
    Lasting host entered machine final := by
  induction budget generalizing machine outcome final with
  | zero => cases done
  | succ budget inductionHypothesis =>
      have concludes := concludes_run plain budget
      have fetched : Lasting host entered machine machine.fetched :=
        .act (.refl machine) (.compute (machine.frame.advance 1) ⟨rfl, rfl, rfl⟩)
      rw [run_succ] at done
      cases ended : Instruction.execute host (runFrame host (run host budget)) machine.nextOpcode
          machine.fetched with
      | error cause next =>
          rw [ended] at done
          rw [failFrame_eq_ok done] at succeeds
          cases succeeds
      | ok signal next =>
          rw [ended] at done
          have executed : Lasting host entered machine.fetched next := by
            refine lasting_of_execute plain concludes ended ?_ ?_
            · exact fun prepares => allowed _ (mem_enteredBelow_of_entry prepares List.mem_cons_self)
            · intro entry ready shown started left prepares starts ran good
              exact inductionHypothesis ran good
                fun invocation member => allowed _
                  (mem_enteredBelow_of_entry prepares (mem_enteredThrough_of_start starts member))
          have before := fetched.trans executed
          cases signal with
          | stop => exact before.trans (acts_of_stopFrame done succeeds).lasting
          | proceed =>
              exact before.trans (inductionHypothesis done succeeds
                fun invocation member => allowed _ (mem_enteredBelow_of_next ended member))

/-- What lasts of an outermost frame that succeeds. -/
theorem frameLasts_of_runOutermost (plain : host.Plain) {machine final : Machine}
    (done : runOutermost host transfer machine = .ok outcome final)
    (succeeds : outcome.isSuccess = true)
    (allowed : ∀ started, startFrame host transfer (machine.opened host) = .ok none started →
      ∀ invocation ∈ enteredBelow host (stepBudget started.frame.gas) started,
        entered invocation) :
    FrameLasts host entered transfer machine outcome final := by
  refine frameLasts_of_runFrame plain done succeeds ?_
  intro started ended starts ran
  rw [runInstructions_apply] at ran
  exact lasting_of_run plain ran succeeds (allowed started starts)

end Interpreter

/-- The outermost frame of a message either fails and leaves nothing, or succeeds and leaves what
lasts of it and of the frames that were entered below it. -/
theorem Transaction.Settles.lasts {machine ready ended final : Machine} {report : Report}
    (settles : Settles host machine ready ended outcome report final) (plain : host.Plain)
    (hooks : host.hooks = [.settlement]) (entered : Invocation → Prop)
    (allowed : ∀ invocation ∈ enteredFrames host machine, entered invocation) :
    outcome.isSuccess = false ∧ ready.Restored ended ∨
      outcome.isSuccess = true ∧
        FrameLasts host entered (payment host ready) ready outcome ended := by
  cases succeeds : outcome.isSuccess with
  | false =>
      have runs := (Interpreter.enters_runFrame plain
        (Interpreter.concludes_runInstructions plain)).runs settles.runs
      exact .inl ⟨rfl, runs.restored succeeds⟩
  | true =>
      refine .inr ⟨rfl, Interpreter.frameLasts_of_runOutermost plain settles.runs succeeds ?_⟩
      have prepares := settles.prepares
      rw [← prepareAll_of_hooks hooks] at prepares
      intro started starts invocation member
      exact allowed invocation (mem_enteredFrames_of_start prepares starts member)

end CancunMachine
