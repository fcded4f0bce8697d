import Mathlib.Tactic
import CancunMachine.Proofs.Evolution.Storage
import CancunMachine.Proofs.Word.Arithmetic

/-!
# The conduct of a destruction

The balance that a destruction gives away is the one it has read, because nothing in between
touches the world.
-/

namespace CancunMachine

open Ending

namespace Instruction

variable {host : Host} {known : Invocation → Prop} {silent tame : Prop}

theorem orderly_chargeDestruction (beneficiary : Address) (balance : Word) :
    Orderly host known silent tame 0 (-1) (chargeDestruction host beneficiary balance) := by
  have rest : ∀ cold createsAccount : Bool, Orderly host known silent tame 0 (-1) (do
      Run.charge (host.schedule.selfdestructCost cold createsAccount)
      Run.warmAddress beneficiary
      Run.drop 1) := by
    intro cold createsAccount
    exact ((orderly_charge _).bind fun _ => (orderly_warmAddress _).bind fun _ =>
      orderly_drop 1).weaken (by omega) (by omega)
  refine (orderly_isColdAddress _).step fun cold => Orderly.branch ?_ ?_
  · exact (rest cold false).weaken (by omega) (by omega)
  · refine (orderly_reading (Access.reads_isEmpty _)).step fun createsAccount => ?_
    exact (rest cold createsAccount).weaken (by omega) (by omega)

theorem acts_of_bequeath {machine final : Machine} {beneficiary : Address}
    (writable : machine.frame.invocation.isStatic = false)
    (done : bequeath host machine.frame.invocation.recipient beneficiary
      (machine.world.balance machine.frame.invocation.recipient) machine = .ok () final) :
    Acts host machine final ∧ final.frame = machine.frame := by
  obtain ⟨_, middle, given, rest⟩ := bind_eq_ok.mp done
  obtain ⟨world, transferred, rfl⟩ := Run.onWorld_eq_ok.mp given
  have moves := Access.moves_of_transfer transferred
  have bequeathed : Acts host machine { machine with world } :=
    .single (.bequeath beneficiary world writable moves)
  obtain ⟨seen, _, got, settled⟩ := bind_eq_ok.mp rest
  cases got
  by_cases created : machine.substate.isCreated machine.frame.invocation.recipient = true
  · simp only [if_pos created] at settled
    obtain ⟨_, cleared, wrote, marked⟩ := bind_eq_ok.mp settled
    obtain ⟨emptied, zeroed, rfl⟩ := Run.onWorld_eq_ok.mp wrote
    cases (Access.writes_balance _ _).changes zeroed
    cases marked
    exact ⟨bequeathed.tail (.destroy writable created), rfl⟩
  · simp only [if_neg created] at settled
    cases settled
    exact ⟨bequeathed, rfl⟩

theorem bequeath_failed {machine final : Machine} {address beneficiary : Address}
    {balance : Word} {cause : Failure}
    (failed : bequeath host address beneficiary balance machine = .error cause final) :
    cause.endsMessage = true ∧ final.frame = machine.frame ∧
      final.suspended = machine.suspended := by
  rcases bind_eq_error.mp failed with early | ⟨_, middle, given, rest⟩
  · obtain ⟨error, world, _, rfl, rfl⟩ := Run.onWorld_eq_error.mp early
    exact ⟨rfl, rfl, rfl⟩
  obtain ⟨world, _, rfl⟩ := Run.onWorld_eq_ok.mp given
  rcases bind_eq_error.mp rest with asked | ⟨seen, _, got, settled⟩
  · cases asked
  cases got
  split at settled
  · rcases bind_eq_error.mp settled with refused | ⟨_, cleared, wrote, marked⟩
    · obtain ⟨error, emptied, _, rfl, rfl⟩ := Run.onWorld_eq_error.mp refused
      exact ⟨rfl, rfl, rfl⟩
    · cases marked
  · cases settled

theorem bequeath_of_solvent {machine : Machine} {address beneficiary : Address}
    (granted : host.refusals = .none) (solvent : machine.world.Solvent) :
    ∃ final, bequeath host address beneficiary (machine.world.balance address) machine =
      .ok () final := by
  have affordable : (machine.world.balance address).lt (machine.world.balance address) = false :=
    Word.lt_eq_false_iff.mpr (le_refl _)
  obtain ⟨world, moves⟩ := solvent address beneficiary _ affordable
  have transferred := Access.transfer_of_granted granted moves
  have given : Run.onWorld (Access.transfer host.refusals address beneficiary
      (machine.world.balance address)) machine = .ok () { machine with world } :=
    Run.onWorld_eq_ok.mpr ⟨world, transferred, rfl⟩
  unfold bequeath
  rw [bind_of_ok given, bind_of_ok (get_apply _)]
  by_cases created : machine.substate.isCreated address = true
  · simp only [if_pos created]
    have zeroed := (Access.writes_balance address .zero).granted granted world
    rw [bind_of_ok (Run.onWorld_eq_ok.mpr ⟨_, zeroed, rfl⟩)]
    exact ⟨_, rfl⟩
  · simp only [if_neg created]
    exact ⟨_, rfl⟩

/-- A destruction after its operand was read. -/
def destroying (host : Host) (address beneficiary : Address) : Run Signal := do
  let balance ← Run.onWorld (Access.readBalance host.refusals address)
  chargeDestruction host beneficiary balance
  bequeath host address beneficiary balance
  return .stop

theorem selfdestruct_eq (default : host.overrides.destruction = none) :
    selfdestruct host = (do
      Run.forbidStatic
      let word ← Run.peekOne
      let address ← Run.frame (·.invocation.recipient)
      destroying host address word.toAddress) := by
  simp only [selfdestruct, destroying, default]

/-- A destruction pays, and then gives away what the account has at that moment. -/
theorem destroying_eq_ok {machine final : Machine} {address beneficiary : Address}
    {signal : Signal} (done : destroying host address beneficiary machine = .ok signal final) :
    signal = .stop ∧ ∃ paid,
      chargeDestruction host beneficiary (machine.world.balance address) machine = .ok () paid ∧
      bequeath host address beneficiary (paid.world.balance address) paid = .ok () final := by
  obtain ⟨balance, looked, read, rest⟩ := bind_eq_ok.mp done
  obtain ⟨world, shown, rfl⟩ := Run.onWorld_eq_ok.mp read
  obtain ⟨rfl, rfl⟩ := (Access.reads_balance address).shows shown
  obtain ⟨_, paid, charged, given⟩ := bind_eq_ok.mp rest
  obtain ⟨_, _, bequeathed, returned⟩ := bind_eq_ok.mp given
  cases returned
  have orderly : Orderly host (fun _ => True) True True 0 (-1)
      (chargeDestruction host beneficiary (machine.world.balance address)) :=
    orderly_chargeDestruction beneficiary _
  have same : paid.world = machine.world := (orderly.keeps trivial trivial charged).1
  refine ⟨rfl, paid, charged, ?_⟩
  rw [same]
  exact bequeathed

theorem orderly_destroying (beneficiary : Address) {address : Address}
    (writable : ∀ invocation, known invocation → invocation.isStatic = false)
    (own : ∀ invocation, known invocation → address = invocation.recipient) :
    Orderly host known False False 0 (-1) (destroying host address beneficiary) := by
  have paying : ∀ balance, Orderly host known False False 0 (-1)
      (chargeDestruction host beneficiary balance) := orderly_chargeDestruction beneficiary
  have giving : ∀ {paid final : Machine}, known paid.frame.invocation →
      bequeath host address beneficiary (paid.world.balance address) paid = .ok () final →
      Acts host paid final ∧ final.frame = paid.frame := by
    intro paid final holds bequeathed
    rw [own _ holds] at bequeathed
    exact acts_of_bequeath (writable _ holds) bequeathed
  constructor
  case keeps => exact fun impossible => impossible.elim
  case settles => exact fun impossible => impossible.elim
  case acts =>
    intro machine signal final holds done
    obtain ⟨_, paid, charged, bequeathed⟩ := destroying_eq_ok done
    have acted := (paying _).acts holds charged
    rw [← acted.evolves.samePlace.context.invocation] at holds
    exact acted.trans (giving holds bequeathed).1
  case spends =>
    intro machine signal final holds done
    obtain ⟨_, paid, charged, bequeathed⟩ := destroying_eq_ok done
    have spent := (paying _).spends holds charged
    rw [← ((paying _).evolves holds charged).samePlace.context.invocation] at holds
    rw [(giving holds bequeathed).2]
    exact spent
  case grows =>
    intro machine signal final holds done
    obtain ⟨_, paid, charged, bequeathed⟩ := destroying_eq_ok done
    have grown := (paying _).grows holds charged
    rw [← ((paying _).evolves holds charged).samePlace.context.invocation] at holds
    rw [(giving holds bequeathed).2]
    exact grown
  case failed =>
    intro machine cause final holds failed settled
    rcases bind_eq_error.mp failed with unread | ⟨balance, looked, read, rest⟩
    · obtain ⟨error, world, _, rfl, _⟩ := Run.onWorld_eq_error.mp unread
      cases settled
    obtain ⟨world, shown, rfl⟩ := Run.onWorld_eq_ok.mp read
    obtain ⟨rfl, rfl⟩ := (Access.reads_balance address).shows shown
    rcases bind_eq_error.mp rest with unpaid | ⟨_, paid, charged, given⟩
    · exact (paying _).failed holds unpaid settled
    rcases bind_eq_error.mp given with refused | ⟨_, _, _, returned⟩
    · rw [(bequeath_failed refused).1] at settled
      cases settled
    · cases returned
  case stays =>
    intro machine cause final holds failed
    rcases bind_eq_error.mp failed with unread | ⟨balance, looked, read, rest⟩
    · obtain ⟨error, world, _, rfl, rfl⟩ := Run.onWorld_eq_error.mp unread
      exact ⟨rfl, le_refl _⟩
    obtain ⟨world, shown, rfl⟩ := Run.onWorld_eq_ok.mp read
    obtain ⟨rfl, rfl⟩ := (Access.reads_balance address).shows shown
    rcases bind_eq_error.mp rest with unpaid | ⟨_, paid, charged, given⟩
    · exact (paying _).stays holds unpaid
    rcases bind_eq_error.mp given with refused | ⟨_, _, _, returned⟩
    · obtain ⟨_, sameFrame, waiting⟩ := bequeath_failed refused
      have same := ((paying _).evolves holds charged).samePlace.suspended
      rw [sameFrame]
      exact ⟨waiting.trans same, (paying _).spends holds charged⟩
    · cases returned

theorem orderly_selfdestruct (default : host.overrides.destruction = none) :
    Orderly host known False False 0 (-1) (selfdestruct host) := by
  rw [selfdestruct_eq default]
  refine Orderly.unlessStatic (orderly_peekOne.step fun word =>
    Orderly.asking (·.recipient) fun address => ?_)
  refine (orderly_destroying word.toAddress ?_ ?_).weaken (by omega) (by omega)
  · exact fun _ holds => holds.1.2
  · exact fun _ holds => holds.2

theorem settles_of_selfdestruct {machine final : Machine} {cause : Failure}
    (default : host.overrides.destruction = none) (granted : host.refusals = .none)
    (solvent : machine.world.Solvent)
    (failed : selfdestruct host machine = .error cause final) : cause.endsMessage = false := by
  have asking : Orderly host (fun _ => True) True True 0 0 Run.forbidStatic := orderly_forbidStatic
  have peeking : Orderly host (fun _ => True) True True 0 0 Run.peekOne := orderly_peekOne
  rw [selfdestruct_eq default] at failed
  rcases bind_eq_error.mp failed with static | ⟨_, _, permitted, rest⟩
  · exact asking.settles trivial trivial static granted
  rw [(isStatic_of_forbidStatic permitted).2] at rest
  rcases bind_eq_error.mp rest with empty | ⟨word, peeked, operand, late⟩
  · exact peeking.settles trivial trivial empty granted
  rw [← (peeking.keeps trivial trivial operand).1] at solvent
  rcases bind_eq_error.mp late with unasked | ⟨address, _, asked, destroys⟩
  · cases unasked
  cases asked
  rcases bind_eq_error.mp destroys with unread | ⟨balance, looked, read, pays⟩
  · obtain ⟨error, world, refused, _, _⟩ := Run.onWorld_eq_error.mp unread
    rw [(Access.reads_balance _).granted granted] at refused
    cases refused
  obtain ⟨world, shown, rfl⟩ := Run.onWorld_eq_ok.mp read
  obtain ⟨rfl, rfl⟩ := (Access.reads_balance _).shows shown
  have paying : Orderly host (fun _ => True) True True 0 (-1) (chargeDestruction host
      word.toAddress (peeked.world.balance peeked.frame.invocation.recipient)) :=
    orderly_chargeDestruction _ _
  rcases bind_eq_error.mp pays with unpaid | ⟨_, paid, charged, gives⟩
  · exact paying.settles trivial trivial unpaid granted
  have same := (paying.keeps trivial trivial charged).1
  rw [← same] at solvent gives
  obtain ⟨given, bequeathed⟩ := bequeath_of_solvent granted solvent
  rw [bind_of_ok bequeathed] at gives
  cases gives

end Instruction

end CancunMachine
