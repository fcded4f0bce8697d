import Mathlib.Tactic
import CancunMachine.Proofs.Rollback

/-!
# Static frames change nothing

A static frame has no act that changes an account or the substate, its children are static again,
and what moves at their start goes from an account to itself. What remains are the layers that are
opened and closed around children, and closing an empty layer gives the layers before.
-/

namespace CancunMachine

/-- Accounts and substate are as they were. -/
structure Machine.Unmoved (machine next : Machine) : Prop where
  view : next.world.view = machine.world.view
  substate : next.substate = machine.substate

theorem Machine.Unmoved.refl (machine : Machine) : machine.Unmoved machine := ⟨rfl, rfl⟩

theorem Machine.Unmoved.trans {first second third : Machine} (earlier : first.Unmoved second)
    (later : second.Unmoved third) : first.Unmoved third where
  view := later.view.trans earlier.view
  substate := later.substate.trans earlier.substate

/-- A frame that may neither write nor deposit code. -/
structure Invocation.Powerless (invocation : Invocation) : Prop where
  isStatic : invocation.isStatic = true
  calls : invocation.kind.isCreation = false

variable {host : Host} {transfer : Transfer} {outcome : Outcome}

/-- An account that pays itself has what it had: the debit and the credit cancel. -/
theorem World.view_of_moves_same {address : Address} {value : Word} {world final : World}
    (moves : Moves address address value world final) : final.view = world.view := by
  cases moves with
  | nothing => rfl
  | something nonzero affordable _ =>
      have present : ∃ account, world.account? address = some account := by
        cases found : world.account? address with
        | some account => exact ⟨account, rfl⟩
        | none =>
            have poor : world.balance address = .zero := by
              rw [balance, found]
              rfl
            rw [poor, Word.lt_eq_false_iff] at affordable
            have worthless : value = .zero := Word.eq_of_toNat_eq (Nat.le_zero.mp affordable)
            rw [worthless] at nonzero
            cases nonzero
      obtain ⟨account, found⟩ := present
      have seen : world.view address = some account.view := by simp [view, found]
      have held : world.balance address = account.balance := by simp [balance, found]
      rw [held] at affordable
      have cancels : (account.balance.sub value).add value = account.balance :=
        Word.add_sub_cancel (Word.lt_eq_false_iff.mp affordable)
      simp only [moved, balance_setBalance, if_true, held, cancels]
      simp only [setBalance, view_updateHeader, account?_updateHeader, if_true, found,
        Option.getD_some, Function.update_idem]
      rw [← Function.update_eq_self address world.view, seen]
      simp

theorem Act.unmoved {machine final : Machine} (powerless : machine.frame.invocation.Powerless)
    (act : Act host machine final) : machine.Unmoved final := by
  have static := powerless.isStatic
  cases act with
  | compute | warm | report | cache | pool => exact ⟨rfl, rfl⟩
  | deposit _ creates =>
      rw [powerless.calls] at creates
      cases creates
  | writeSlot _ _ writes | writeTransient _ _ writes | refund _ writes | log _ writes
  | raiseNonce writes | bequeath _ _ writes | destroy writes =>
      rw [static] at writes
      cases writes

/-- The start of a static frame moves nothing, unless from an account to itself. -/
theorem Starts.unmoved {machine started : Machine}
    (powerless : machine.frame.invocation.Powerless)
    (neutral : transfer.value.isZero = true ∨ transfer.source = transfer.target)
    (starts : Starts host transfer machine started) : machine.Unmoved started := by
  cases starts with
  | refused => exact .refl machine
  | created _ creates =>
      rw [powerless.calls] at creates
      cases creates
  | called world _ moves =>
      refine ⟨?_, rfl⟩
      rcases neutral with zero | same
      · cases moves with
        | nothing => rfl
        | something nonzero =>
            rw [zero] at nonzero
            cases nonzero
      · rw [same] at moves
        exact World.view_of_moves_same moves

theorem Substate.commitBackup_pushBackup (substate : Substate) :
    substate.pushBackup.commitBackup = substate := by
  obtain ⟨current, below⟩ := substate
  simp [pushBackup, commitBackup, layers, SubstateLayer.merge, SubstateLayer.start, Table.union,
    Table.empty]

/-- Closing a frame that has added nothing leaves nothing. -/
theorem Closes.unmoved {machine ended closed : Machine}
    (reversible : (machine.opened host).Reversible ended)
    (mark : ended.frame.warmMark = machine.warmth.size)
    (course : (machine.opened host).Unmoved ended) (closes : Closes host outcome ended closed) :
    machine.Unmoved closed := by
  cases succeeded : outcome.isSuccess with
  | false =>
      have restored := closes.restored reversible mark succeeded
      exact ⟨restored.world.view, restored.substate⟩
  | true =>
      cases closes with
      | undone world failed =>
          rw [succeeded] at failed
          cases failed
      | kept world _ commits =>
          have additions : ended.substate = machine.substate.pushBackup := course.substate
          refine ⟨?_, ?_⟩
          · exact (World.view_of_commit commits).trans course.view
          · simp only [Machine.reported, additions, Substate.commitBackup_pushBackup]

theorem Invocation.Powerless.child {machine : Machine} {entry : Entry}
    (powerless : machine.frame.invocation.Powerless) (legal : entry.Legal host machine) :
    entry.child.invocation.Powerless where
  isStatic := legal.inherits powerless.isStatic
  calls := by
    cases creates : entry.child.invocation.kind.isCreation with
    | false => rfl
    | true =>
        have writes := (legal.creation creates).1
        rw [powerless.isStatic] at writes
        cases writes

theorem Evolves.powerless {machine final : Machine} (evolves : Evolves host machine final)
    (powerless : machine.frame.invocation.Powerless) : final.frame.invocation.Powerless := by
  rw [evolves.samePlace.context.invocation]
  exact powerless

theorem Starts.powerless {machine started : Machine} (starts : Starts host transfer machine started)
    (powerless : machine.frame.invocation.Powerless) : started.frame.invocation.Powerless := by
  rw [starts.samePlace.context.invocation]
  exact powerless

/-- Whatever a static frame and its children do, accounts and substate stay as they are. -/
theorem Evolves.unmoved {machine final : Machine} (evolves : Evolves host machine final)
    (powerless : machine.frame.invocation.Powerless) : machine.Unmoved final := by
  induction evolves with
  | refl => exact .refl _
  | act before acted inductionHypothesis =>
      exact (inductionHypothesis powerless).trans (acted.unmoved (before.powerless powerless))
  | @child start middle started ended closed entry outcome before legal starts course _ closes
      earlier childUnmoved =>
      have childPowerless := (before.powerless powerless).child legal
      have begun : ((middle.entering entry.child).opened host).Unmoved started :=
        starts.unmoved childPowerless (legal.neutral childPowerless.isStatic)
      have during := begun.trans (childUnmoved (starts.powerless childPowerless))
      have around : (middle.entering entry.child).Unmoved closed :=
        closes.unmoved (starts.reversible.trans course.reversible)
          (warmMark_of_course starts course) during
      exact (earlier powerless).trans ⟨around.view, around.substate⟩

theorem FrameRuns.unmoved {machine final : Machine}
    (runs : FrameRuns host transfer machine outcome final)
    (powerless : machine.frame.invocation.Powerless)
    (neutral : transfer.value.isZero = true ∨ transfer.source = transfer.target) :
    machine.Unmoved final := by
  cases runs with
  | intro starts course _ closes =>
      have begun : (machine.opened host).Unmoved _ := starts.unmoved powerless neutral
      have during := begun.trans (course.unmoved (starts.powerless powerless))
      exact closes.unmoved (starts.reversible.trans course.reversible)
        (warmMark_of_course starts course) during

namespace Instruction

theorem isStatic_of_readStaticcall {machine final : Machine} {request : CallRequest}
    (done : readStaticcall host machine = .ok request final) : request.target.isStatic = true := by
  obtain ⟨words, operands, _, _, rest⟩ := reading_eq_ok readOperands_eq_ok done
  cases rest
  rfl

/-- The children of a static call and of a static frame are static. -/
theorem isStatic_of_preparation {opcode : Opcode} {machine ready : Machine} {entry : Entry}
    (prepared : preparation host opcode machine = .ok (some entry) ready)
    (static : opcode = .staticcall ∨ machine.frame.invocation.isStatic = true) :
    entry.child.invocation.isStatic = true := by
  rcases static with rfl | static
  · obtain ⟨request, middle, reads, prepares⟩ := Ending.bind_eq_ok.mp prepared
    rw [isStatic_of_prepareCall prepares, isStatic_of_readStaticcall reads]
  · obtain ⟨evolved, _, _, _⟩ := preparation_eq_some prepared
    have legal := (preparation_eq_some prepared).2.legal
    apply legal.inherits
    rw [evolved.samePlace.context.invocation]
    exact static

end Instruction

/-- Static frames change nothing, whether they succeed or fail. -/
theorem static_frames_change_nothing (host : Host) (plain : host.Plain) (opcode : Opcode)
    (machine ready : Machine) (entry : Entry)
    (prepared : Instruction.preparation host opcode machine = .ok (some entry) ready) :
    (opcode = .staticcall ∨ machine.frame.invocation.isStatic = true →
      entry.child.invocation.isStatic = true) ∧
    (entry.child.invocation.isStatic = true → ∀ budget outcome final,
      Interpreter.runFrame host (Interpreter.run host budget) entry.transfer
        (ready.entering entry.child) = .ok outcome final →
      ready.world.LooksLike final.world ∧ ready.substate.LooksLike final.substate) := by
  refine ⟨Instruction.isStatic_of_preparation prepared, ?_⟩
  intro static budget outcome final done
  have legal := (Instruction.preparation_eq_some prepared).2.legal
  have powerless : entry.child.invocation.Powerless := by
    refine ⟨static, ?_⟩
    cases creates : entry.child.invocation.kind.isCreation with
    | false => rfl
    | true =>
        have writes := (legal.creation creates).2
        rw [static] at writes
        cases writes
  have runs := (Interpreter.enters_runFrame plain (Interpreter.concludes_run plain budget)).runs done
  have unmoved : (ready.entering entry.child).Unmoved final :=
    runs.unmoved powerless (legal.neutral static)
  exact ⟨World.looksLike_of_view unmoved.view, .of_eq unmoved.substate⟩

/-- A static frame of a contract that holds five units, about to send one of them along with the
code of another account that it runs in its own name. -/
def generousMachine : Machine where
  frame :=
    { Frame.start
        { kind := .staticCall
          sender := .zero
          recipient := .ofNat 1000
          codeAddress := .ofNat 1000
          value := .zero
          calldata := ByteArray.empty
          isStatic := true
          gasLimit := 100000
          depth := 1
          returnOffset := 0
          returnSize := 0 }
        default .empty .empty with
      stack := ⟨#[.zero, .zero, .zero, .zero, .ofLimb 1, .ofLimb 2000, .ofLimb 50000], [],
        by decide⟩ }
  suspended := []
  substate := .empty
  world := World.empty.setBalance (.ofNat 1000) (.ofLimb 5)
  warmth := .empty
  cache := default
  pool := .empty
  events := []

def generousHost : Host := .standard .blank default .standard

/-- The value that the frame sends along, and how the child that it starts ends. -/
def generousEnding? : Option (Word × Verdict) :=
  match Instruction.preparation generousHost .callcode generousMachine with
  | .ok (some entry) ready =>
      match Interpreter.runFrame generousHost (Interpreter.run generousHost 5) entry.transfer
        (ready.entering entry.child) with
      | .ok outcome _ => some (entry.transfer.value, outcome.verdict)
      | .error _ _ => none
  | _ => none

theorem generous_frame_changes_nothing :
    ∃ ready entry outcome final, generousMachine.frame.invocation.isStatic = true ∧
      Instruction.preparation generousHost .callcode generousMachine = .ok (some entry) ready ∧
      entry.transfer.value = .ofLimb 1 ∧ entry.child.invocation.isStatic = true ∧
      Interpreter.runFrame generousHost (Interpreter.run generousHost 5) entry.transfer
        (ready.entering entry.child) = .ok outcome final ∧
      outcome.verdict = .success ∧
      ready.world.LooksLike final.world ∧ ready.substate.LooksLike final.substate := by
  have shown : generousEnding? = some (.ofLimb 1, .success) := by decide +kernel
  unfold generousEnding? at shown
  split at shown
  · rename_i entry ready prepared
    split at shown
    · rename_i outcome final done
      injection shown with shown
      injection shown with value verdict
      have nothing := static_frames_change_nothing generousHost ⟨rfl, rfl⟩ .callcode
        generousMachine ready entry prepared
      have static := nothing.1 (.inr rfl)
      exact ⟨ready, entry, outcome, final, rfl, prepared, value, static, done, verdict,
        nothing.2 static 5 outcome final done⟩
    · cases shown
  · cases shown

end CancunMachine
