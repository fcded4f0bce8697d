import Mathlib.Tactic
import CancunMachine.Substate

/-!
# What a substate shows

Destroyed and created addresses and logs as they are seen through all layers. Opening and keeping a
backup change nothing of that; each addition shows at its address, or at the end of the logs.
-/

namespace CancunMachine

theorem Address.mem_sortedDistinct {addresses : List Address} {address : Address} :
    address ∈ Address.sortedDistinct addresses ↔ address ∈ addresses := by
  rw [Address.sortedDistinct, List.mem_mergeSort, List.mem_eraseDups]

theorem Address.sortedDistinct_eq_nil {addresses : List Address} :
    Address.sortedDistinct addresses = [] ↔ addresses = [] := by
  simp only [List.eq_nil_iff_forall_not_mem, mem_sortedDistinct]

/-- Where both tables have a value, that of the later one counts. -/
theorem Table.get?_union {Key Value : Type} [DecidableEq Key] (earlier later : Table Key Value)
    (key : Key) : (earlier.union later).get? key = (later.get? key).or (earlier.get? key) := by
  obtain ⟨entries⟩ := later
  unfold union
  induction entries with
  | nil => rfl
  | cons entry entries inductionHypothesis =>
      rw [List.foldr_cons, get?_insert, inductionHypothesis]
      by_cases same : entry.1 = key
      · simp [get?, same]
      · simp [get?, same, Ne.symm same]

namespace Substate

variable (substate : Substate) (address other : Address)

theorem mem_destroyedAddresses :
    address ∈ substate.destroyedAddresses ↔ substate.isDestroyed address = true := by
  simp [destroyedAddresses, Address.mem_sortedDistinct, isDestroyed]

theorem destroyedAddresses_eq_nil :
    substate.destroyedAddresses = [] ↔ ∀ address, substate.isDestroyed address = false := by
  simp [List.eq_nil_iff_forall_not_mem, mem_destroyedAddresses]

/-- Two substates show the same destroyed and created addresses. -/
structure SameMarks (substate next : Substate) : Prop where
  isDestroyed : ∀ address, next.isDestroyed address = substate.isDestroyed address
  isCreated : ∀ address, next.isCreated address = substate.isCreated address

theorem SameMarks.refl : substate.SameMarks substate := ⟨fun _ => rfl, fun _ => rfl⟩

theorem sameMarks_pushBackup : substate.SameMarks substate.pushBackup where
  isDestroyed := fun address => by simp [isDestroyed, pushBackup, layers, SubstateLayer.start]
  isCreated := fun address => by simp [isCreated, pushBackup, layers, SubstateLayer.start]

theorem sameMarks_commitBackup : substate.SameMarks substate.commitBackup := by
  obtain ⟨current, below⟩ := substate
  cases below with
  | nil => exact .refl _
  | cons earlier below =>
      constructor
      case isDestroyed =>
        intro address
        simp [isDestroyed, commitBackup, layers, SubstateLayer.merge, Bool.or_assoc]
      case isCreated =>
        intro address
        simp [isCreated, commitBackup, layers, SubstateLayer.merge, Bool.or_assoc]

theorem sameMarks_setTransient (key value : Word) :
    substate.SameMarks (substate.setTransient address key value) where
  isDestroyed := fun other => by simp [isDestroyed, layers, setTransient]
  isCreated := fun other => by simp [isCreated, layers, setTransient]

theorem sameMarks_setRefund (refund : Int) : substate.SameMarks (substate.setRefund refund) where
  isDestroyed := fun address => by simp [isDestroyed, layers, setRefund]
  isCreated := fun address => by simp [isCreated, layers, setRefund]

theorem sameMarks_addLog (log : Log) : substate.SameMarks (substate.addLog log) where
  isDestroyed := fun address => by simp [isDestroyed, layers, addLog]
  isCreated := fun address => by simp [isCreated, layers, addLog]

theorem isDestroyed_addDestroyed :
    (substate.addDestroyed address).isDestroyed other =
      (substate.isDestroyed other || decide (other = address)) := by
  unfold addDestroyed markDestroyed
  by_cases known : substate.isDestroyed address = true
  · rw [if_pos known]
    by_cases same : other = address
    · rw [same, known]
      rfl
    · simp [same]
  · rw [if_neg known]
    by_cases same : other = address <;> simp [isDestroyed, layers, same]

theorem isCreated_addCreated :
    (substate.addCreated address).isCreated other =
      (substate.isCreated other || decide (other = address)) := by
  unfold addCreated markCreated
  by_cases known : substate.isCreated address = true
  · rw [if_pos known]
    by_cases same : other = address
    · rw [same, known]
      rfl
    · simp [same]
  · rw [if_neg known]
    by_cases same : other = address <;> simp [isCreated, layers, same]

theorem isCreated_addDestroyed :
    (substate.addDestroyed address).isCreated other = substate.isCreated other := by
  unfold addDestroyed markDestroyed
  split
  · rfl
  · simp [isCreated, layers]

theorem logs_addDestroyed : (substate.addDestroyed address).logs = substate.logs := by
  unfold addDestroyed markDestroyed
  split
  · rfl
  · simp [logs, layers]

theorem isDestroyed_addCreated :
    (substate.addCreated address).isDestroyed other = substate.isDestroyed other := by
  unfold addCreated markCreated
  split
  · rfl
  · simp [isDestroyed, layers]

theorem logs_addCreated : (substate.addCreated address).logs = substate.logs := by
  unfold addCreated markCreated
  split
  · rfl
  · simp [logs, layers]

theorem logs_addLog (log : Log) : (substate.addLog log).logs = substate.logs ++ [log] := by
  simp [logs, layers, addLog]

theorem logs_setTransient (key value : Word) :
    (substate.setTransient address key value).logs = substate.logs := by
  simp [logs, layers, setTransient]

theorem logs_setRefund (refund : Int) : (substate.setRefund refund).logs = substate.logs := by
  simp [logs, layers, setRefund]

theorem logs_pushBackup : substate.pushBackup.logs = substate.logs := by
  simp [logs, pushBackup, layers, SubstateLayer.start]

theorem logs_commitBackup : substate.commitBackup.logs = substate.logs := by
  obtain ⟨current, below⟩ := substate
  cases below with
  | nil => rfl
  | cons earlier below => simp [logs, commitBackup, layers, SubstateLayer.merge]

theorem transient_pushBackup : substate.pushBackup.transient = substate.transient := by
  funext address key
  simp only [transient, pushBackup, layers, SubstateLayer.start, List.findSome?_cons,
    Table.get?_empty]

theorem transient_commitBackup : substate.commitBackup.transient = substate.transient := by
  obtain ⟨current, below⟩ := substate
  cases below with
  | nil => rfl
  | cons earlier below =>
      funext address key
      simp only [transient, commitBackup, layers, SubstateLayer.merge, List.findSome?_cons,
        Table.get?_union]
      cases current.transient.get? (address, key) <;> rfl

theorem transient_setTransient (key value : Word) :
    (substate.setTransient address key value).transient =
      Function.update substate.transient address
        (Function.update (substate.transient address) key value) := by
  funext other slot
  simp only [transient, setTransient, layers, List.findSome?_cons, Table.get?_insert,
    Function.update_apply, Prod.mk.injEq]
  by_cases own : other = address
  · by_cases same : slot = key <;> simp [transient, layers, List.findSome?_cons, own, same]
  · simp [transient, layers, List.findSome?_cons, own]

theorem transient_setRefund (refund : Int) :
    (substate.setRefund refund).transient = substate.transient := rfl

theorem transient_addLog (log : Log) : (substate.addLog log).transient = substate.transient := rfl

theorem transient_addDestroyed :
    (substate.addDestroyed address).transient = substate.transient := by
  unfold addDestroyed markDestroyed
  split <;> rfl

theorem transient_addCreated : (substate.addCreated address).transient = substate.transient := by
  unfold addCreated markCreated
  split <;> rfl

theorem below_addDestroyed : (substate.addDestroyed address).below = substate.below := by
  unfold addDestroyed markDestroyed
  split <;> rfl

theorem below_addCreated : (substate.addCreated address).below = substate.below := by
  unfold addCreated markCreated
  split <;> rfl

theorem refund_addDestroyed : (substate.addDestroyed address).refund = substate.refund := by
  unfold addDestroyed markDestroyed
  split <;> rfl

theorem refund_addCreated : (substate.addCreated address).refund = substate.refund := by
  unfold addCreated markCreated
  split <;> rfl

end Substate

end CancunMachine
