import Mathlib.Tactic
import CancunMachine.Proofs.Likeness.Frame
import CancunMachine.Transaction

/-!
# Caches, pools and tracing are transparent

A message gives the same report or the same error, and leaves the same world, whatever cache its
programs come from, whether its frames reuse the stacks and memories of finished ones, and whether
anything is reported to a tracer. Only a collaborator that is shown the machine at the end of a frame
could tell the difference, so it must not look.
-/

namespace CancunMachine

open Ending

theorem mirrors_forM {Alpha : Type} {each other : Alpha → Run Unit} (items : List Alpha)
    (mirrors : ∀ item, Mirrors Eq (each item) (other item)) :
    Mirrors Eq (items.forM each) (items.forM other) := by
  induction items with
  | nil => exact mirrors_same _
  | cons item rest inductionHypothesis => exact (mirrors item).step fun _ => inductionHypothesis

theorem mirrors_foldlM {Alpha Beta : Type} {next other : Beta → Alpha → Run Beta}
    (items : List Alpha) (mirrors : ∀ value item, Mirrors Eq (next value item) (other value item))
    (value : Beta) : Mirrors Eq (items.foldlM next value) (items.foldlM other value) := by
  induction items generalizing value with
  | nil => exact mirrors_same _
  | cons item rest inductionHypothesis => exact (mirrors value item).step inductionHypothesis

namespace Transaction

variable {host : Host} {tuning : Tuning}

theorem mirrors_validate : Mirrors Eq (validate host) (validate (host.tuned tuning)) := by
  refine (mirrors_onWorld _).step fun balance => .guard (mirrors_throw _) ?_
  refine .guard (mirrors_throw _) ?_
  exact (mirrors_onWorld _).step fun nonce => .branch (mirrors_throw _) (mirrors_same _)

theorem mirrors_warmEntry (entry : Address × List Word) :
    Mirrors Eq (warmEntry entry) (warmEntry entry) :=
  (mirrors_modifyWarmth _).step fun _ => mirrors_forM _ fun _ => mirrors_modifyWarmth _

theorem mirrors_prepareSettlement :
    Mirrors Eq (prepareSettlement host) (prepareSettlement (host.tuned tuning)) := by
  refine mirrors_get.bind fun machine other alike => ?_
  rw [alike.warmth]
  cases other.warmth.begin with
  | error error => exact fun _ _ alike => .error alike
  | ok warmth =>
      exact (mirrors_modifyWarmth _).step fun _ => mirrors_validate.step fun _ =>
        (mirrors_onWorld _).step fun _ => (mirrors_modifyWarmth _).step fun _ =>
        (mirrors_modifyWarmth _).step fun _ => mirrors_recipient.step fun _ =>
        (mirrors_modifyWarmth _).step fun _ => (mirrors_modifyWarmth _).step fun _ =>
        mirrors_forM _ mirrors_warmEntry

theorem mirrors_prepare (hook : Hook) :
    Mirrors Eq (prepare host hook) (prepare (host.tuned tuning) hook) := by
  cases hook with
  | settlement => exact mirrors_prepareSettlement
  | recorder =>
      refine mirrors_get.bind fun machine other alike => ?_
      rw [alike.warmth]
      exact mirrors_record _

theorem mirrors_finalizeSettlement (outcome : Outcome) :
    Mirrors Eq (finalizeSettlement host outcome)
      (finalizeSettlement (host.tuned tuning) outcome) := by
  have settles : Mirrors Eq
      (do
        let refund := cappedRefund (← get).substate.refund outcome.gasUsed
        Run.modifySubstate (·.setRefund refund)
        Run.modifyWarmth (·.finish)
        Run.onWorld Access.finalize
        return { outcome with gasUsed := subSaturating outcome.gasUsed (UInt64.ofNat refund) })
      (do
        let refund := cappedRefund (← get).substate.refund outcome.gasUsed
        Run.modifySubstate (·.setRefund refund)
        Run.modifyWarmth (·.finish)
        Run.onWorld Access.finalize
        return { outcome with
          gasUsed := subSaturating outcome.gasUsed (UInt64.ofNat refund) }) := by
    refine mirrors_get.bind fun machine other alike => ?_
    rw [alike.substate]
    exact (mirrors_modifySubstate _).step fun _ => (mirrors_modifyWarmth _).step fun _ =>
      (mirrors_onWorld _).step fun _ => mirrors_same _
  refine .branch ?_ settles
  refine mirrors_get.bind fun machine other alike => ?_
  rw [alike.substate]
  exact (mirrors_forM _ fun _ => mirrors_onWorld _).step fun _ => settles

theorem mirrors_finalize (outcome : Outcome) (hook : Hook) :
    Mirrors Eq (finalize host outcome hook) (finalize (host.tuned tuning) outcome hook) := by
  cases hook with
  | settlement => exact mirrors_finalizeSettlement outcome
  | recorder =>
      refine mirrors_get.bind fun machine other alike => ?_
      rw [alike.warmth, alike.substate]
      exact (mirrors_record _).step fun _ => mirrors_same _

theorem mirrors_report (outcome : Outcome) :
    Mirrors Eq (report host outcome) (report (host.tuned tuning) outcome) := by
  refine mirrors_get.bind fun machine other alike => ?_
  rw [alike.substate, alike.frame.invocation]
  exact mirrors_same _

theorem mirrors_execute (blind : ∀ hook ∈ host.overrides.outcome, hook.Blind) :
    Mirrors Eq (execute host) (execute (host.tuned tuning)) :=
  (mirrors_forM _ mirrors_prepare).step fun _ => mirrors_recipient.step fun _ =>
    (Interpreter.mirrors_runOutermost blind _).step fun outcome =>
    (mirrors_foldlM _ mirrors_finalize outcome).step mirrors_report

/-- The report or the error of a message, with the world it leaves. -/
def ending : EStateM.Result Failure Machine Report → Except Failure Report × World
  | .ok report final => (.ok report, final.world)
  | .error cause final => (.error cause, final.world)

/-- What comes of a message on a world with programs from a cache, unless it cannot even start. -/
def answer (host : Host) (world : World) (cache : Cache) :
    Except Failure (Except Failure Report × World) :=
  (boot host world cache).map fun machine => ending (execute host machine)

theorem boot_alike (world : World) (cache other : Cache) :
    Answers Machine.Alike (boot host world cache) (boot (host.tuned tuning) world other) := by
  have same : outermost (host.tuned tuning) = outermost host := rfl
  unfold boot
  rw [same]
  cases outermost host world with
  | error error world => exact .error _
  | ok started world =>
      obtain ⟨invocation, code⟩ := started
      have fresh : SameBuffers (Stack.empty, Memory.empty) (Stack.empty, Memory.empty) :=
        ⟨rfl, Memory.alike_of_cleared Memory.tidy_empty Memory.tidy_empty rfl rfl⟩
      have programs := (cache.program_make (fun _ => false) code).trans
        (other.program_make (fun _ => false) code).symm
      exact .ok
        { frame := Frame.alike_start invocation programs fresh
          suspended := .nil
          substate := rfl
          world := rfl
          warmth := rfl
          notes := rfl
          tidy := fun _ impossible => nomatch impossible
          otherTidy := fun _ impossible => nomatch impossible }

end Transaction

end CancunMachine
