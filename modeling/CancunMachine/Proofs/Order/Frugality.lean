import Mathlib.Tactic
import CancunMachine.Proofs.Order.Return

/-!
# Frames under any collaborator

Whatever a collaborator does when frames end and however destructions are replaced, a frame that
runs its instructions leaves the frames that wait as they were and makes no gas. So a child never
brings back more gas than its parent has given it.
-/

namespace CancunMachine

open Ending

/-- A computation that leaves the frames that wait as they were and makes no gas, however it
ends. -/
def Modest {Alpha : Type} (action : Run Alpha) : Prop :=
  ∀ machine, (reached (action machine)).suspended = machine.suspended ∧
    (reached (action machine)).frame.gas.toNat ≤ machine.frame.gas.toNat

namespace Modest

variable {Alpha Beta : Type} {host : Host}

theorem bind {first : Run Alpha} {next : Alpha → Run Beta} (early : Modest first)
    (late : ∀ value, Modest (next value)) : Modest (first >>= next) := by
  intro machine
  have started := early machine
  cases ended : first machine with
  | error cause middle =>
      rw [ended] at started
      rw [bind_of_error ended]
      exact started
  | ok value middle =>
      rw [ended] at started
      rw [bind_of_ok ended]
      have later := late value middle
      exact ⟨later.1.trans started.1, later.2.trans started.2⟩

theorem of_orderly {silent tame : Prop} {cost : Nat} {growth : Int} {action : Run Alpha}
    (orderly : Orderly host (fun _ => True) silent tame cost growth action) : Modest action := by
  intro machine
  cases ended : action machine with
  | error cause final => exact orderly.stays trivial ended
  | ok value final =>
      have spent := orderly.spends trivial ended
      exact ⟨(orderly.evolves trivial ended).samePlace.suspended, Nat.le_of_add_right_le spent⟩

theorem suspended {action : Run Alpha} (modest : Modest action) :
    Keeps Machine.suspended action := fun machine => (modest machine).1

end Modest

namespace Instruction

variable {host : Host} {enter : Transfer → Run Outcome} {opcode : Opcode} {entry : Entry}
  {machine ready closed : Machine} {outcome : Outcome} {halts : List Halt}

/-- A function that runs frames, whatever collaborators do when they end. -/
structure Returns (enter : Transfer → Run Outcome) : Prop where
  waits : ∀ transfer machine, ∃ halts,
    (reached (enter transfer machine)).suspended = queueing halts machine.suspended
  spends : ∀ {transfer machine outcome final}, enter transfer machine = .ok outcome final →
    outcome.gasRemaining.toNat ≤ machine.frame.gas.toNat

/-- A child gives its parent back, with the last halt that was queued for it. -/
theorem runChild_of_queueing
    (entered : enter entry.transfer (ready.entering entry.child) = .ok outcome closed)
    (waits : closed.suspended = queueing halts (ready.frame :: ready.suspended)) :
    runChild host enter entry.child entry.transfer ready =
      .ok outcome (closed.resumed host (ready.frame.queueing halts) ready.suspended) := by
  unfold runChild
  rw [bind_of_ok (suspend_apply _ _), bind_of_ok (Run.attempt_of_ok entered),
    bind_of_ok (resume_of_suspended waits)]
  rfl

theorem runChild_of_failure {cause : Failure}
    (failed : enter entry.transfer (ready.entering entry.child) = .error cause closed)
    (waits : closed.suspended = queueing halts (ready.frame :: ready.suspended)) :
    runChild host enter entry.child entry.transfer ready =
      .error cause (closed.resumed host (ready.frame.queueing halts) ready.suspended) := by
  unfold runChild
  rw [bind_of_ok (suspend_apply _ _), bind_of_ok (Run.attempt_of_error failed),
    bind_of_ok (resume_of_suspended waits)]
  rfl

/-- What is known of a child once its parent has resumed. -/
structure Resumed (enter : Transfer → Run Outcome) (entry : Entry) (ready : Machine)
    (ending : EStateM.Result Failure Machine Outcome) : Prop where
  frame : ∃ halts, (reached ending).frame = ready.frame.queueing halts
  suspended : (reached ending).suspended = ready.suspended
  spends : ∀ outcome final, ending = .ok outcome final →
    outcome.gasRemaining.toNat ≤ entry.child.gas.toNat

/-- However a child ends, its parent resumes with the queue as the only change. -/
theorem resumed_of_runChild (returns : Returns enter) (entry : Entry) (ready : Machine) :
    Resumed enter entry ready (runChild host enter entry.child entry.transfer ready) := by
  obtain ⟨halts, waits⟩ := returns.waits entry.transfer (ready.entering entry.child)
  cases ended : enter entry.transfer (ready.entering entry.child) with
  | ok outcome closed =>
      rw [ended] at waits
      rw [runChild_of_queueing ended waits]
      refine ⟨⟨halts, rfl⟩, rfl, fun _ _ same => ?_⟩
      cases same
      exact returns.spends ended
  | error cause closed =>
      rw [ended] at waits
      rw [runChild_of_failure ended waits]
      exact ⟨⟨halts, rfl⟩, rfl, fun _ _ same => nomatch same⟩

theorem modest_preparation (host : Host) (opcode : Opcode) :
    Modest (preparation host opcode) := by
  have calls : ∀ {read : Run CallRequest}, Orderly host (fun _ => True) True True 0 0 read →
      Modest (do prepareCall host (← read)) := by
    intro read reads
    refine (Modest.of_orderly reads).bind fun request => ?_
    have prepares : Orderly host (fun _ => True) True False _ _ (prepareCall host request) :=
      orderly_prepareCall request
    exact .of_orderly prepares
  have creates : ∀ {read : Run CreationRequest}, Orderly host (fun _ => True) True True 0 0 read →
      Modest (do prepareCreation host (← read)) := by
    intro read reads
    refine (Modest.of_orderly reads).bind fun request => ?_
    have prepares : Orderly host (fun _ => True) False False _ _ (prepareCreation host request) :=
      orderly_prepareCreation request
    exact .of_orderly prepares
  cases opcode
  case call => exact calls orderly_readCall
  case callcode => exact calls orderly_readCallcode
  case delegatecall => exact calls orderly_readDelegatecall
  case staticcall => exact calls orderly_readStaticcall
  case create => exact creates orderly_readCreate
  case create2 => exact creates orderly_readCreate2
  all_goals exact fun _ => ⟨rfl, le_refl _⟩

theorem modest_selfdestruct : Modest (selfdestruct host) := by
  cases overridden : host.overrides.destruction with
  | none =>
      have destroys : Orderly host (fun _ => True) False False _ _ (selfdestruct host) :=
        orderly_selfdestruct overridden
      exact .of_orderly destroys
  | some override =>
      have forbids : Orderly host (fun _ => True) True True _ _ Run.forbidStatic :=
        orderly_forbidStatic
      have peeks : Orderly host (fun _ => True) True True _ _ Run.peekOne := orderly_peekOne
      have drops : Orderly host (fun _ => True) True True _ _ (Run.drop 1) := orderly_drop 1
      have pays (price : UInt64) : Orderly host (fun _ => True) True True _ _ (Run.charge price) :=
        orderly_charge price
      have answers (answer : Except Failure Signal) : Modest (Run.ofExcept answer) := by
        intro machine
        cases answer <;> exact ⟨rfl, le_refl _⟩
      unfold selfdestruct
      rw [overridden]
      refine (Modest.of_orderly forbids).bind fun _ => (Modest.of_orderly peeks).bind fun _ => ?_
      exact (Modest.of_orderly drops).bind fun _ => Modest.bind (fun _ => ⟨rfl, le_refl _⟩) fun _ =>
        Modest.bind (fun _ => ⟨rfl, le_refl _⟩) fun _ =>
        (Modest.of_orderly (pays _)).bind fun _ => answers _

/-- An instruction that cannot prepare its child fails with it. -/
theorem execute_of_unprepared {cause : Failure} {final : Machine}
    (starts : opcode.startsChild = true)
    (fails : preparation host opcode machine = .error cause final) :
    execute host enter opcode machine = .error cause final := by
  have course := course host opcode starts
  rw [course.prepares] at fails
  rw [course.executes]
  rcases bind_eq_error.mp fails with unread | ⟨request, middle, reads, unprepared⟩
  · exact bind_of_error unread
  · rw [bind_of_ok reads]
    exact bind_of_error unprepared

theorem execute_of_no_child {final : Machine} (starts : opcode.startsChild = true)
    (prepares : preparation host opcode machine = .ok none final) :
    execute host enter opcode machine = .ok .proceed final := by
  have course := course host opcode starts
  rw [course.prepares] at prepares
  obtain ⟨request, middle, reads, prepared⟩ := bind_eq_ok.mp prepares
  rw [course.executes, bind_of_ok reads]
  exact bind_of_ok prepared

/-- An instruction makes no gas, since a child has no more than its parent has given it. -/
theorem modest_execute (cancun : host.schedule = .cancun) (returns : Returns enter)
    (opcode : Opcode) : Modest (execute host enter opcode) := by
  rcases opcode.regular_or_startsChild with regular | rfl | starts
  · obtain ⟨cost, growth, orderly, _⟩ := execute_regular regular
    exact .of_orderly orderly
  · exact modest_selfdestruct
  intro machine
  have modest := modest_preparation host opcode machine
  cases prepares : preparation host opcode machine with
  | error cause final =>
      rw [prepares] at modest
      rw [execute_of_unprepared starts prepares]
      exact modest
  | ok answer ready =>
      rw [prepares] at modest
      cases answer with
      | none =>
          rw [execute_of_no_child starts prepares]
          exact modest
      | some entry =>
          obtain ⟨finish, takesBack, executes⟩ := execute_of_child cancun prepares
          have prepared := (preparation_eq_some prepares).2
          have granted : entry.child.gas = entry.child.invocation.gasLimit := by
            rw [prepared.legal.fresh.start]
            rfl
          have paid := prepared.gas cancun
          have resumed : Resumed enter entry ready
            (runChild host enter entry.child entry.transfer ready) :=
              resumed_of_runChild returns entry ready
          obtain ⟨halts, frame⟩ := resumed.frame
          have waits := resumed.suspended
          rw [executes]
          cases ran : runChild host enter entry.child entry.transfer ready with
          | error cause final =>
              rw [ran, reached] at frame waits
              rw [bind_of_error ran, reached, frame]
              exact ⟨waits.trans modest.1, modest.2⟩
          | ok outcome returned =>
              have left := resumed.spends outcome returned ran
              rw [ran, reached] at frame waits
              rw [bind_of_ok ran]
              have gas : returned.frame.gas = ready.frame.gas := by
                rw [frame]
                rfl
              have place := waits.trans modest.1
              rw [granted] at left
              cases finished : finish outcome returned with
              | error cause final =>
                  obtain ⟨kept, spent⟩ := (takesBack.finishes outcome).stays finished
                  rw [gas] at spent
                  exact ⟨kept.trans place, by rw [reached]; omega⟩
              | ok signal final =>
                  obtain ⟨acted, spent, _⟩ := (takesBack.finishes outcome).acts finished
                  rw [gas] at spent
                  exact ⟨acted.evolves.samePlace.suspended.trans place, by rw [reached]; omega⟩

/-- An instruction leaves the frames behind its own as they were. -/
theorem suspended_of_execute (cancun : host.schedule = .cancun) (returns : Returns enter)
    (opcode : Opcode) : Keeps Machine.suspended (execute host enter opcode) :=
  (modest_execute cancun returns opcode).suspended

/-- A parent raises what it has to for its child, or it goes on with its answer. -/
theorem execute_of_entered (cancun : host.schedule = .cancun) (returns : Returns enter)
    (unqueued : ready.frame.queuedHalt = none)
    (prepares : preparation host opcode machine = .ok (some entry) ready)
    (entered : enter entry.transfer (ready.entering entry.child) = .ok outcome closed)
    (waits : closed.suspended = queueing halts (ready.frame :: ready.suspended)) :
    (∀ halt, outcome.raises? halts.getLast? = some halt →
      ∃ next, execute host enter opcode machine = .error (.halt halt) next) ∧
    (outcome.raises? halts.getLast? = none →
      ∃ next, execute host enter opcode machine = .ok .proceed next ∧
        next.frame.queuedHalt = none ∧
        ready.frame.stack.push (opcode.answer entry outcome) = .ok next.frame.stack) := by
  obtain ⟨finish, takesBack, executes⟩ := execute_of_child cancun prepares
  have queue : (ready.frame.queueing halts).queuedHalt = halts.getLast? := by
    rw [Frame.queueing, unqueued, Option.or_none]
  rw [executes, bind_of_ok (runChild_of_queueing entered waits)]
  constructor
  case left =>
    intro halt raises
    rw [← queue] at raises
    exact ⟨_, takesBack.raises raises⟩
  case right =>
    intro silent
    rw [← queue] at silent
    refine takesBack.answers silent rfl rfl ?_
    have prepared := (preparation_eq_some prepares).2
    have granted : entry.child.gas = entry.child.invocation.gasLimit := by
      rw [prepared.legal.fresh.start]
      rfl
    have paid := prepared.gas cancun
    have left : outcome.gasRemaining.toNat ≤ entry.child.gas.toNat := returns.spends entered
    have bounded := machine.frame.gas.toNat_lt
    have same : (closed.resumed host (ready.frame.queueing halts) ready.suspended).frame.gas =
        ready.frame.gas := rfl
    rw [granted] at left
    rw [same, UInt64.size]
    omega

end Instruction

namespace Interpreter

variable {host : Host} {machine final : Machine} {outcome settled : Outcome}

/-- A computation that gives the outcome of a frame, whatever collaborators do. -/
structure Delivers (body : Run Outcome) : Prop where
  waits : Keeps Machine.suspended body
  gas : ∀ {machine outcome final}, body machine = .ok outcome final →
    outcome.gasRemaining = final.frame.gas ∧ final.frame.gas.toNat ≤ machine.frame.gas.toNat

theorem delivers_of_concludes {body : Run Outcome} (cancun : host.schedule = .cancun)
    (waits : Keeps Machine.suspended body) (concludes : Concludes host body) : Delivers body where
  waits := waits
  gas := by
    intro machine outcome final done
    have same := (concludes.tells done).gasRemaining
    rw [← same]
    exact ⟨rfl, concludes.spends cancun done⟩

theorem delivers_failFrame (cancun : host.schedule = .cancun) (cause : Failure) :
    Delivers (failFrame cause) :=
  delivers_of_concludes cancun (setting_of_failFrame cause).suspended (concludes_failFrame cause)

theorem delivers_stopFrame (cancun : host.schedule = .cancun) : Delivers (stopFrame host) :=
  delivers_of_concludes cancun setting_of_stopFrame.suspended concludes_stopFrame

theorem delivers_concluding {body : Run Outcome} (cancun : host.schedule = .cancun)
    (delivers : Delivers body) (transfer : Transfer) :
    Delivers (concluding host body transfer) where
  waits := suspended_of_concluding transfer delivers.waits
  gas := by
    intro machine outcome final concludes
    cases starts : startFrame host transfer machine with
    | error cause started =>
        rw [concluding_of_error starts] at concludes
        obtain ⟨same, spent⟩ := (delivers_failFrame cancun cause).gas concludes
        exact ⟨same, spent.trans (startFrame_stays starts).2⟩
    | ok shown started =>
        rw [concluding_of_ok starts] at concludes
        obtain ⟨_, _, _, spent, tells⟩ := startFrame_eq_ok starts
        cases shown with
        | some result =>
            cases concludes
            exact ⟨(tells outcome rfl).gasRemaining, spent⟩
        | none =>
            obtain ⟨same, later⟩ := delivers.gas concludes
            exact ⟨same, later.trans spent⟩

/-- Settling the outcome of a frame makes no gas. -/
theorem gas_of_settle (cancun : host.schedule = .cancun)
    (settles : settle host outcome machine = .ok settled final)
    (tells : outcome.gasRemaining = machine.frame.gas) :
    settled.gasRemaining.toNat ≤ machine.frame.gas.toNat := by
  cases watched : host.overrides.outcome with
  | none =>
      rw [settle_of_unwatched watched] at settles
      cases settles
      rw [tells]
  | some hook =>
      have consulted : ∀ {outcome settled : Outcome} {middle final : Machine},
          consult hook outcome middle = .ok settled final →
          outcome.gasRemaining = middle.frame.gas →
          settled.gasRemaining.toNat ≤ middle.frame.gas.toNat := by
        intro outcome settled middle final consults tells
        rw [(verdict_of_consult consults).2, tells]
      cases succeeds : outcome.isSuccess with
      | false =>
          rw [settle_of_failure watched succeeds] at settles
          exact consulted settles tells
      | true =>
          cases consults : consult hook outcome machine with
          | ok accepted left =>
              rw [settle_of_accepted watched succeeds consults] at settles
              cases settles
              exact consulted consults tells
          | error cause middle =>
              rw [settle_of_refused watched succeeds consults] at settles
              obtain ⟨failed, left, fails, again⟩ := bind_eq_ok.mp settles
              have same : middle.frame = machine.frame := by
                have kept := frame_of_consult hook outcome machine
                rw [consults] at kept
                exact kept
              obtain ⟨exact, spent⟩ := (delivers_failFrame cancun cause).gas fails
              rw [← same]
              exact (consulted again exact).trans spent

theorem returns_runFrame {body : Run Outcome} (cancun : host.schedule = .cancun)
    (delivers : Delivers body) : Instruction.Returns (runFrame host body) where
  waits := fun transfer machine => ⟨_, suspended_of_runFrame transfer machine delivers.waits⟩
  spends := by
    intro transfer machine outcome final ran
    rw [runFrame_apply] at ran
    obtain ⟨concluded, ended, concludes, rest⟩ := bind_eq_ok.mp ran
    obtain ⟨settled, closing, settles, rest⟩ := bind_eq_ok.mp rest
    obtain ⟨_, closed, _, returned⟩ := bind_eq_ok.mp rest
    cases returned
    obtain ⟨same, spent⟩ := (delivers_concluding cancun delivers transfer).gas concludes
    exact (gas_of_settle cancun settles same).trans spent

/-- The instructions of a frame deliver its outcome, whatever collaborators do below it. -/
theorem delivers_run (cancun : host.schedule = .cancun) (budget : Nat) :
    Delivers (run host budget) := by
  induction budget with
  | zero => exact ⟨.throw _, fun impossible => nomatch impossible⟩
  | succ budget inductionHypothesis =>
      have returns := returns_runFrame cancun inductionHypothesis
      have modest := fun machine : Machine =>
        Instruction.modest_execute cancun returns machine.nextOpcode machine.fetched
      constructor
      case waits =>
        intro machine
        rw [run_succ]
        have waits := (modest machine).1
        cases ended : Instruction.execute host (runFrame host (run host budget)) machine.nextOpcode
            machine.fetched with
        | error cause next =>
            rw [ended] at waits
            exact ((delivers_failFrame cancun cause).waits next).trans waits
        | ok signal next =>
            rw [ended] at waits
            cases signal with
            | proceed => exact (inductionHypothesis.waits next).trans waits
            | stop => exact ((delivers_stopFrame cancun).waits next).trans waits
      case gas =>
        intro machine outcome final ran
        rw [run_succ] at ran
        have spent := (modest machine).2
        cases ended : Instruction.execute host (runFrame host (run host budget)) machine.nextOpcode
            machine.fetched with
        | error cause next =>
            rw [ended] at ran spent
            obtain ⟨same, later⟩ := (delivers_failFrame cancun cause).gas ran
            exact ⟨same, later.trans spent⟩
        | ok signal next =>
            rw [ended] at ran spent
            cases signal with
            | proceed =>
                obtain ⟨same, later⟩ := inductionHypothesis.gas ran
                exact ⟨same, later.trans spent⟩
            | stop =>
                obtain ⟨same, later⟩ := (delivers_stopFrame cancun).gas ran
                exact ⟨same, later.trans spent⟩

end Interpreter

end CancunMachine
