import Mathlib.Tactic
import CancunMachine.Proofs.History.Deed
import CancunMachine.Proofs.Tracing.Child

/-!
# The reports of reads and writes

In a tracked frame a completed read or write of a slot is reported once, with the account, the key
and the word of its deed. A write also becomes the last one of its frame, tracked or not. An access
that fails is neither reported nor remembered.
-/

namespace CancunMachine

open Ending

namespace Deed

/-- What a tracked frame reports of a deed. -/
def report? : Deed → Option Event
  | .slotRead address key value => some (.read address key value)
  | .slotWritten address key value => some (.written address key value)
  | _ => none

/-- What a deed writes to a slot. -/
def write? : Deed → Option (Word × Word)
  | .slotWritten _ key value => some (key, value)
  | _ => none

end Deed

/-- What has been reported and is going to be reported after a deed of the running frame. -/
def Tracing.after (deed : Deed) (tracing : Tracing) : Tracing :=
  { tracing with
    reports := (if tracing.running.isTracked then deed.report?.toList else []) ++ tracing.reports
    running := { tracing.running with lastWrite := deed.write?.or tracing.running.lastWrite } }

/-- An action that lets the tracer know what it has done, unless it fails. -/
structure Informs (told : Tracing → Machine → Prop) (action : Run Signal) : Prop where
  done : ∀ {machine signal final}, action machine = .ok signal final →
    told machine.tracing final
  failed : ∀ {machine cause final}, action machine = .error cause final →
    final.tracing = machine.tracing

variable {Alpha : Type} {host : Host} {told : Tracing → Machine → Prop}

theorem Informs.after_quiet {first : Run Alpha} {next : Alpha → Run Signal} (quiet : Quiet first)
    (informs : ∀ value, Informs told (next value)) : Informs told (first >>= next) where
  done := by
    intro machine signal final done
    obtain ⟨value, middle, begun, rest⟩ := bind_eq_ok.mp done
    exact quiet.of_ok begun ▸ (informs value).done rest
  failed := by
    intro machine cause final failed
    rcases bind_eq_error.mp failed with early | ⟨value, middle, begun, rest⟩
    · have kept := quiet machine
      rw [early] at kept
      exact kept
    · exact ((informs value).failed rest).trans (quiet.of_ok begun)

namespace Instruction

theorem traceTracked_apply (traced : host.isTraced = true) (event : Event) (machine : Machine) :
    (do
      if ← Run.frame (·.isTracked) then Run.trace host event
      return Signal.proceed : Run Signal) machine =
    .ok .proceed { machine with
      events := (if machine.frame.isTracked then [event] else []) ++ machine.events } := by
  rw [bind_of_ok (Run.frame_apply _ _)]
  cases machine.frame.isTracked with
  | false => rfl
  | true =>
      unfold Run.trace
      rw [if_pos traced]
      rfl

/-- After the slot has been found a read pushes its word and reports it. -/
theorem informs_of_read (traced : host.isTraced = true) (address : Address) (key value : Word) :
    Informs (fun before final => ∃ word, final.frame.stack.top? 0 = some word ∧
        final.tracing = before.after (.slotRead address key word))
      (do
        Run.push value
        if ← Run.frame (·.isTracked) then Run.trace host (.read address key value)
        return Signal.proceed) where
  done := by
    intro machine signal final done
    obtain ⟨_, _, pushes, rest⟩ := bind_eq_ok.mp done
    obtain ⟨stack, rfl, top⟩ := Run.push_eq_ok pushes
    rw [traceTracked_apply traced] at rest
    cases rest
    refine ⟨value, top, Tracing.ext ?_ rfl rfl⟩
    unfold Machine.tracing Machine.reports Tracing.after
    cases tracked : machine.frame.isTracked <;>
      simp [Frame.reporting, tracked, Deed.report?, Event.isReported]
  failed := by
    intro machine cause final failed
    rcases bind_eq_error.mp failed with early | ⟨_, _, _, rest⟩
    · have kept := quiet_push value machine
      rw [early] at kept
      exact kept
    · rw [traceTracked_apply traced] at rest
      cases rest

/-- After the slot has been written the frame remembers the write and reports it. -/
theorem informs_of_write (traced : host.isTraced = true) (address : Address) (key value : Word) :
    Informs (fun before final => final.tracing = before.after (.slotWritten address key value))
      (do
        Run.modifyFrame fun frame => { frame with lastWrite := some (key, value) }
        if ← Run.frame (·.isTracked) then Run.trace host (.written address key value)
        return Signal.proceed) where
  done := by
    intro machine signal final done
    rw [bind_of_ok (Run.modifyFrame_apply _ _), traceTracked_apply traced] at done
    cases done
    refine Tracing.ext ?_ rfl rfl
    unfold Machine.tracing Machine.reports Tracing.after
    cases tracked : machine.frame.isTracked <;>
      simp [Frame.reporting, tracked, Deed.report?, Event.isReported]
  failed := by
    intro machine cause final failed
    rw [bind_of_ok (Run.modifyFrame_apply _ _), traceTracked_apply traced] at failed
    cases failed

/-- What the tracer sees of an instruction is what it has done. -/
def TellsDeed (opcode : Opcode) (machine : Machine)
    (executed : EStateM.Result Failure Machine Signal) : Prop :=
  (reached executed).tracing =
    match executed with
    | .ok _ final =>
        (opcode.deed? machine.frame final.frame).elim machine.tracing machine.tracing.after
    | .error _ _ => machine.tracing

variable {opcode : Opcode} {action : Run Signal} {machine : Machine}

theorem tellsDeed_of_informs (informs : Informs told action)
    (tells : ∀ final, told machine.tracing final →
      final.tracing =
        (opcode.deed? machine.frame final.frame).elim machine.tracing machine.tracing.after) :
    TellsDeed opcode machine (action machine) := by
  unfold TellsDeed
  cases ended : action machine with
  | ok signal final => exact tells final (informs.done ended)
  | error cause final => exact informs.failed ended

theorem tellsDeed_of_error {early : Run Alpha} {cause : Failure} {final : Machine}
    (quiet : Quiet early) (failed : early machine = .error cause final) :
    TellsDeed opcode machine (.error cause final) := by
  have kept := quiet machine
  rw [failed] at kept
  exact kept

theorem tellsDeed_sload (traced : host.isTraced = true) (machine : Machine) :
    TellsDeed .sload machine (sload host machine) := by
  unfold sload
  cases peeked : Run.peekOne machine with
  | error cause final =>
      rw [bind_of_error peeked]
      exact tellsDeed_of_error quiet_peekOne peeked
  | ok key same =>
      obtain ⟨asked, rfl⟩ := Run.peekOne_eq_ok peeked
      rw [bind_of_ok peeked, bind_of_ok (Run.frame_apply _ _)]
      refine tellsDeed_of_informs (.after_quiet (quiet_isColdSlot _ _) fun cold =>
        .after_quiet (quiet_charge _) fun _ => .after_quiet (quiet_modifyWarmth _) fun _ =>
        .after_quiet (quiet_drop 1) fun _ => .after_quiet (quiet_onWorld _) fun value =>
        informs_of_read traced _ key value) ?_
      rintro final ⟨word, answered, shown⟩
      simp [Opcode.deed?, asked, answered, shown]

theorem tellsDeed_sstore (traced : host.isTraced = true) (machine : Machine) :
    TellsDeed .sstore machine (sstore host machine) := by
  unfold sstore
  cases guarded : Run.forbidStatic machine with
  | error cause final =>
      rw [bind_of_error guarded]
      exact tellsDeed_of_error quiet_forbidStatic guarded
  | ok _ same =>
  obtain rfl := looks_forbidStatic guarded
  rw [bind_of_ok guarded, bind_of_ok (Run.frame_apply _ _)]
  by_cases scarce : same.frame.gas ≤ host.schedule.sstoreSentry
  · simp only [if_pos scarce]
    exact rfl
  simp only [if_neg scarce]
  cases peeked : Run.peekTwo same with
  | error cause final =>
      rw [bind_of_error peeked]
      exact tellsDeed_of_error quiet_peekTwo peeked
  | ok words again =>
      obtain rfl := looks_peekTwo peeked
      obtain ⟨top, below⟩ := Run.peekTwo_eq_ok peeked
      rw [bind_of_ok peeked, bind_of_ok (Run.frame_apply _ _)]
      refine tellsDeed_of_informs (.after_quiet (quiet_onWorld _) fun current =>
        .after_quiet (quiet_onWorld _) fun initial => .after_quiet (quiet_isColdSlot _ _) fun cold =>
        .after_quiet (quiet_chargeCost _) fun _ => .after_quiet (quiet_modifyWarmth _) fun _ =>
        .after_quiet (quiet_drop 2) fun _ => .after_quiet (quiet_modifySubstate _) fun _ =>
        .after_quiet (quiet_onWorld _) fun _ => informs_of_write traced _ _ _) ?_
      intro final shown
      simp [Opcode.deed?, top, below, shown]

/-- Of a deed that is no access to a slot of the world, a tracer does not hear. -/
theorem after_of_deed? {before after : Frame} {deed : Deed} (other : opcode.accessesSlot = false)
    (done : opcode.deed? before after = some deed) (tracing : Tracing) :
    tracing.after deed = tracing := by
  have silent : deed.report? = none ∧ deed.write? = none := by
    cases opcode <;> simp only [Opcode.deed?, reduceCtorEq] at done
    case sload | sstore => cases other
    case tload | tstore =>
      obtain ⟨first, _, done⟩ := Option.bind_eq_some_iff.mp done
      obtain ⟨second, _, done⟩ := Option.bind_eq_some_iff.mp done
      cases done
      exact ⟨rfl, rfl⟩
    case log =>
      obtain ⟨_, _, rfl⟩ := Option.map_eq_some_iff.mp done
      exact ⟨rfl, rfl⟩
  unfold Tracing.after
  rw [silent.1, silent.2]
  cases tracing.running.isTracked <;> rfl

/-- An instruction that starts no child tells its deed if it succeeds, and nothing if it fails. -/
theorem tellsDeed_of_alone {enter : Transfer → Run Outcome} (traced : host.isTraced = true)
    (alone : opcode.startsChild = false) (machine : Machine) :
    TellsDeed opcode machine (execute host enter opcode machine) := by
  cases accesses : opcode.accessesSlot with
  | true =>
      cases opcode <;> simp only [Opcode.accessesSlot, Bool.false_eq_true] at accesses
      case sload => exact tellsDeed_sload traced machine
      case sstore => exact tellsDeed_sstore traced machine
  | false =>
      have kept := @quiet_execute host enter opcode alone accesses machine
      unfold TellsDeed
      cases ended : execute host enter opcode machine with
      | error cause final =>
          rw [ended] at kept
          exact kept
      | ok signal final =>
          rw [ended] at kept
          cases done : opcode.deed? machine.frame final.frame with
          | none => simpa only [done, Option.elim_none] using kept
          | some deed =>
              simpa only [done, Option.elim_some, after_of_deed? accesses done] using kept

end Instruction

end CancunMachine
