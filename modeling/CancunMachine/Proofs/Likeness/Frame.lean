import Mathlib.Tactic
import CancunMachine.Interpreter
import CancunMachine.Proofs.Likeness.Child

/-!
# Frames on machines that look alike

A frame mirrors itself from its entry to its exit if the collaborator that acts on its end sees no
difference between machines that look alike. By induction on the step budget this holds of the
frames below it as well.
-/

namespace CancunMachine

open Ending

/-- A collaborator that sees no difference between machines that look alike. -/
def OutcomeHook.Blind (hook : OutcomeHook) : Prop :=
  ∀ (machine other : Machine) (outcome : Outcome), machine.Alike other →
    hook machine outcome = hook other outcome

namespace Interpreter

variable {host : Host} {tuning : Tuning}

theorem mirrors_outcome (verdict : Verdict) :
    Mirrors Eq (Run.frame (Outcome.ofFrame · verdict)) (Run.frame (Outcome.ofFrame · verdict)) :=
  mirrors_frame fun alike => by
    simp only [Outcome.ofFrame, Frame.gasUsed, alike.invocation, alike.gas, alike.pc, alike.output]

theorem mirrors_isCreation :
    Mirrors Eq (Run.frame (·.invocation.kind.isCreation))
      (Run.frame (·.invocation.kind.isCreation)) :=
  mirrors_frame fun alike => by rw [alike.invocation]

theorem mirrors_takeAll :
    Mirrors Eq
      (Run.modifyFrame fun frame => { frame with gas := 0, output := ByteArray.empty })
      (Run.modifyFrame fun frame => { frame with gas := 0, output := ByteArray.empty }) :=
  mirrors_modifyFrame fun alike => { alike with gas := rfl, output := rfl }

theorem mirrors_failFrame (cause : Failure) :
    Mirrors Eq (failFrame cause) (failFrame cause) := by
  unfold failFrame
  refine .guard (mirrors_throw _) ?_
  exact .guard mirrors_takeAll (mirrors_outcome _)

theorem mirrors_depositCode :
    Mirrors Eq (depositCode host) (depositCode (host.tuned tuning)) := by
  refine (mirrors_frame fun alike => alike).bind fun frame other alike => ?_
  rw [alike.output, alike.invocation]
  refine .guard (mirrors_halt _) ?_
  refine .guard (mirrors_halt _) ?_
  exact (mirrors_chargeCost _).step fun _ => mirrors_onWorld _

theorem mirrors_stopFrame : Mirrors Eq (stopFrame host) (stopFrame (host.tuned tuning)) := by
  refine mirrors_isCreation.step fun creates => .branch ?_ (mirrors_outcome _)
  refine mirrors_depositCode.attempt.step fun deposited => ?_
  cases deposited with
  | ok value => exact mirrors_outcome _
  | error cause => exact mirrors_failFrame cause

theorem mirrors_fetch : Mirrors Eq fetch fetch := by
  refine (mirrors_frame fun alike => ?_).step fun _ => (mirrors_advance 1).step fun _ =>
    mirrors_same _
  rw [Frame.nextByte, Frame.nextByte, alike.program, alike.pc]

theorem mirrors_claimAddress (address : Address) :
    Mirrors Eq (claimAddress host address) (claimAddress (host.tuned tuning) address) := by
  have claims : Mirrors Eq
      (do
        Run.onWorld (Access.writeNonce host.refusals address 1)
        Run.modifySubstate (·.addCreated address))
      (do
        Run.onWorld (Access.writeNonce host.refusals address 1)
        Run.modifySubstate (·.addCreated address)) :=
    (mirrors_onWorld _).step fun _ => mirrors_modifySubstate _
  refine (mirrors_onWorld _).step fun found => ?_
  cases found with
  | none => exact claims
  | some account => exact .guard (mirrors_halt _) claims

theorem mirrors_runPrecompile :
    Mirrors Eq (runPrecompile host) (runPrecompile (host.tuned tuning)) := by
  have same : (host.tuned tuning).overrides = host.overrides := rfl
  refine (mirrors_frame fun alike => alike).bind fun frame other alike => ?_
  rw [alike.invocation, alike.gas, same]
  dsimp only
  cases host.overrides.precompiles other.invocation.codeAddress other.invocation.calldata
      other.gas with
  | none => exact mirrors_same _
  | some answer =>
      cases answer with
      | error failure => exact mirrors_throw _
      | ok result =>
          exact (mirrors_charge _).step fun _ => (mirrors_setOutput _).step fun _ =>
            (mirrors_outcome _).step fun _ => mirrors_same _

theorem mirrors_startFrame (transfer : Transfer) :
    Mirrors Eq (startFrame host transfer) (startFrame (host.tuned tuning) transfer) := by
  refine mirrors_invocation.step fun invocation => .guard (mirrors_claimAddress _) ?_
  exact (mirrors_onWorld _).step fun _ => .branch mirrors_runPrecompile (mirrors_same _)

theorem mirrors_queueOnParent (halt : Halt) :
    Mirrors Eq (queueOnParent halt) (queueOnParent halt) := by
  intro machine other alike
  have waiting := alike.suspended
  cases suspended : machine.suspended with
  | nil =>
      rw [suspended] at waiting
      have otherSuspended : other.suspended = [] := List.forall₂_nil_left_iff.mp waiting
      simp only [queueOnParent, bind, EStateM.bind, get_apply, suspended, otherSuspended]
      exact .ok rfl alike
  | cons parent rest =>
      rw [suspended] at waiting
      obtain ⟨otherParent, otherRest, parents, rests, otherSuspended⟩ :=
        List.forall₂_cons_left_iff.mp waiting
      simp only [queueOnParent, bind, EStateM.bind, get_apply, suspended, otherSuspended]
      exact .ok rfl { alike with suspended := .cons { parents with queuedHalt := rfl } rests }

theorem mirrors_applyActions (actions : List OutcomeAction) (outcome : Outcome) :
    Mirrors Eq (applyActions actions outcome) (applyActions actions outcome) := by
  induction actions generalizing outcome with
  | nil => exact mirrors_same _
  | cons action rest inductionHypothesis =>
      cases action with
      | note event => exact (mirrors_record event).step fun _ => inductionHypothesis outcome
      | replaceOutput output => exact inductionHypothesis _
      | queue halt =>
          exact (mirrors_queueOnParent halt).step fun _ => (mirrors_record _).step fun _ =>
            inductionHypothesis outcome
      | fail cause => exact mirrors_throw cause

theorem mirrors_consult {hook : OutcomeHook} (blind : hook.Blind) (outcome : Outcome) :
    Mirrors Eq (consult hook outcome) (consult hook outcome) := by
  refine mirrors_get.bind fun machine other alike => ?_
  rw [blind machine other outcome alike]
  exact mirrors_applyActions _ _

theorem mirrors_settle (blind : ∀ hook ∈ host.overrides.outcome, hook.Blind) (outcome : Outcome) :
    Mirrors Eq (settle host outcome) (settle (host.tuned tuning) outcome) := by
  have same : (host.tuned tuning).overrides = host.overrides := rfl
  unfold settle
  rw [same]
  cases consulted : host.overrides.outcome with
  | none => exact mirrors_same _
  | some hook =>
      have consults := mirrors_consult (blind hook consulted)
      have again : ∀ outcome : Outcome, Mirrors Eq
          (do
            let mut outcome := outcome
            if !outcome.isSuccess then outcome ← consult hook outcome
            return outcome)
          (do
            let mut outcome := outcome
            if !outcome.isSuccess then outcome ← consult hook outcome
            return outcome) :=
        fun outcome => .branch ((consults outcome).step fun _ => mirrors_same _) (mirrors_same _)
      refine .branch ?_ (again outcome)
      refine (consults outcome).attempt.step fun answer => ?_
      cases answer with
      | ok settled => exact again settled
      | error cause => exact (mirrors_failFrame cause).step again

theorem mirrors_openFrame : Mirrors Eq (openFrame host) (openFrame (host.tuned tuning)) := by
  refine mirrors_get.bind fun machine other alike => ?_
  have marks : Mirrors Eq
      (Run.modifyFrame fun frame =>
        { frame with
          warmMark := machine.warmth.size
          isTracked := host.config.trackStateChanges })
      (Run.modifyFrame fun frame =>
        { frame with
          warmMark := other.warmth.size
          isTracked := (host.tuned tuning).config.trackStateChanges }) :=
    mirrors_modifyFrame fun frames => { frames with warmMark := by rw [alike.warmth] }
  exact marks.step fun _ => (mirrors_onWorld _).step fun _ => (mirrors_modifySubstate _).step
    fun _ => mirrors_invocation.step fun _ =>
    (reports_trace _ rfl).mirrors (reports_trace _ rfl)

/-- The last write of a frame and its end are only reported. -/
theorem reports_end (host : Host) (frame : Frame) (outcome : Outcome) :
    Reports () (do
      if let some (key, value) := frame.lastWrite then
        Run.trace host (.updated frame.invocation.recipient key value)
      Run.trace host (.exit frame.invocation.depth outcome)) := by
  have exits : Reports () (Run.trace host (.exit frame.invocation.depth outcome)) :=
    reports_trace host rfl
  cases frame.lastWrite with
  | none => exact exits
  | some write => exact (reports_trace host rfl).seq exits

theorem mirrors_exitFrame (outcome : Outcome) :
    Mirrors Eq (exitFrame host outcome) (exitFrame (host.tuned tuning) outcome) := by
  have forgets : Mirrors Eq (Run.modifyFrame fun frame => { frame with lastWrite := none })
      (Run.modifyFrame fun frame => { frame with lastWrite := none }) :=
    mirrors_modifyFrame fun alike => { alike with lastWrite := rfl }
  have finishes : Mirrors Eq
      (do
        let frame ← Run.frame id
        Run.modifyFrame fun frame => { frame with lastWrite := none }
        if let some (key, value) := frame.lastWrite then
          Run.trace host (.updated frame.invocation.recipient key value)
        Run.trace host (.exit frame.invocation.depth outcome))
      (do
        let frame ← Run.frame id
        Run.modifyFrame fun frame => { frame with lastWrite := none }
        if let some (key, value) := frame.lastWrite then
          Run.trace (host.tuned tuning) (.updated frame.invocation.recipient key value)
        Run.trace (host.tuned tuning) (.exit frame.invocation.depth outcome)) :=
    (mirrors_frame fun alike => alike).bind fun frame other alike => forgets.step fun _ =>
      (reports_end _ frame outcome).mirrors (reports_end _ other outcome)
  refine .branch ?_ ?_
  · exact (mirrors_onWorld _).step fun _ => (mirrors_modifySubstate _).step fun _ => finishes
  · exact (mirrors_onWorld _).step fun _ => (mirrors_modifySubstate _).step fun _ =>
      (mirrors_frame fun alike => alike.warmMark).step fun _ =>
      (mirrors_modifyWarmth _).step fun _ => finishes

variable {body otherBody : Run Outcome}

theorem mirrors_runFrame (blind : ∀ hook ∈ host.overrides.outcome, hook.Blind)
    (runs : Mirrors Eq body otherBody) (transfer : Transfer) :
    Mirrors Eq (runFrame host body transfer) (runFrame (host.tuned tuning) otherBody transfer) := by
  have leaves : ∀ outcome : Outcome, Mirrors Eq
      (do
        let outcome ← settle host outcome
        exitFrame host outcome
        return outcome)
      (do
        let outcome ← settle (host.tuned tuning) outcome
        exitFrame (host.tuned tuning) outcome
        return outcome) :=
    fun outcome => (mirrors_settle blind outcome).step fun settled =>
      (mirrors_exitFrame settled).step fun _ => mirrors_same settled
  refine mirrors_openFrame.step fun _ => (mirrors_startFrame transfer).attempt.step
    fun started => ?_
  cases started with
  | ok outcome =>
      cases outcome with
      | some outcome => exact leaves outcome
      | none => exact runs.step leaves
  | error cause => exact (mirrors_failFrame cause).step leaves

/-- A frame runs alike for as many steps as it is given, and so do the frames below it. -/
theorem mirrors_run (blind : ∀ hook ∈ host.overrides.outcome, hook.Blind) (budget : Nat) :
    Mirrors Eq (run host budget) (run (host.tuned tuning) budget) := by
  induction budget with
  | zero => exact mirrors_throw _
  | succ budget inductionHypothesis =>
      have enters : ∀ transfer, Mirrors Eq (runFrame host (run host budget) transfer)
          (runFrame (host.tuned tuning) (run (host.tuned tuning) budget) transfer) :=
        mirrors_runFrame blind inductionHypothesis
      refine mirrors_fetch.step fun opcode =>
        (Instruction.mirrors_execute enters opcode).attempt.step fun answer => ?_
      cases answer with
      | error cause => exact mirrors_failFrame cause
      | ok signal =>
          cases signal with
          | proceed => exact inductionHypothesis
          | stop => exact mirrors_stopFrame

theorem mirrors_runOutermost (blind : ∀ hook ∈ host.overrides.outcome, hook.Blind)
    (transfer : Transfer) :
    Mirrors Eq (runOutermost host transfer) (runOutermost (host.tuned tuning) transfer) :=
  mirrors_runFrame blind (mirrors_gas.step fun _ => mirrors_run blind _) transfer

end Interpreter

end CancunMachine
