import Mathlib.Data.Finset.Insert
import Mathlib.Tactic
import CancunMachine.Proofs.Replay
import CancunMachine.Proofs.Substate

/-!
# Backups are full copies

The layers of a substate hold no more than what was added since a backup was opened. The reference
knows nothing of layers: it keeps flat substates, each with everything in it, and a backup is a
copy of the top one. `SubstateStep` lists what can be done; both do it with the same answers, and
no observation tells them apart.
-/

namespace CancunMachine

theorem Address.toNat_injective {left right : Address} (same : left.toNat = right.toNat) :
    left = right := by
  obtain ⟨low, middle, high⟩ := left
  obtain ⟨otherLow, otherMiddle, otherHigh⟩ := right
  have lowBelow := low.toNat_lt
  have middleBelow := middle.toNat_lt
  have otherLowBelow := otherLow.toNat_lt
  have otherMiddleBelow := otherMiddle.toNat_lt
  simp only [toNat, Word.limbBase] at same
  have lows : low.toNat = otherLow.toNat := by omega
  have middles : middle.toNat = otherMiddle.toNat := by omega
  have highs : high.toNat = otherHigh.toNat := by omega
  rw [UInt64.toNat_inj.mp lows, UInt64.toNat_inj.mp middles, UInt32.toNat_inj.mp highs]

theorem nodup_eraseDups {Item : Type} [DecidableEq Item] (items : List Item) :
    items.eraseDups.Nodup := by
  -- The recursion goes on behind the filter, so the induction is on the length.
  induction size : items.length using Nat.strongRecOn generalizing items with
  | ind length inductionHypothesis =>
      cases items with
      | nil => simp
      | cons first items =>
          rw [List.eraseDups_cons, List.nodup_cons]
          constructor
          · simp [List.mem_eraseDups]
          · refine inductionHypothesis _ ?_ _ rfl
            rw [← size, List.length_cons]
            exact Nat.lt_succ_of_le (List.length_filter_le _ _)

theorem Address.sortedDistinct_increasing (addresses : List Address) :
    (Address.sortedDistinct addresses).Pairwise (·.toNat < ·.toNat) := by
  have sorted : (Address.sortedDistinct addresses).Pairwise (·.toNat ≤ ·.toNat) := by
    have ordered : (addresses.eraseDups.mergeSort fun left right =>
        decide (left.toNat ≤ right.toNat)).Pairwise
          fun left right => decide (left.toNat ≤ right.toNat) = true :=
      List.pairwise_mergeSort (fun first second third => by simpa using Nat.le_trans)
        (fun left right => by simpa using Nat.le_total left.toNat right.toNat) _
    simpa [Address.sortedDistinct] using ordered
  have distinct : (Address.sortedDistinct addresses).Nodup :=
    (List.mergeSort_perm _ _).nodup_iff.mpr (nodup_eraseDups addresses)
  refine (sorted.and distinct).imp ?_
  rintro left right ⟨least, different⟩
  exact Nat.lt_of_le_of_ne least fun same => different (toNat_injective same)

/-- What can be done to a substate. -/
inductive SubstateStep
  | pushBackup
  | commitBackup
  | revertBackup
  | addDestroyed (address : Address)
  | addCreated (address : Address)
  | addRefund (change : Int64)
  | setTransient (address : Address) (key value : Word)
  | addLog (log : Log)

/-- One step on a substate; only marking an address has an answer. -/
def Substate.perform : SubstateStep → Substate → Option Bool × Substate
  | .pushBackup, substate => (none, substate.pushBackup)
  | .commitBackup, substate => (none, substate.commitBackup)
  | .revertBackup, substate => (none, substate.revertBackup)
  | .addDestroyed address, substate => (substate.markDestroyed address).map some id
  | .addCreated address, substate => (substate.markCreated address).map some id
  | .addRefund change, substate => (none, substate.addRefund change.toInt)
  | .setTransient address key value, substate => (none, substate.setTransient address key value)
  | .addLog log, substate => (none, substate.addLog log)

/-- A substate with everything in it. -/
structure FlatSubstate where
  destroyed : Finset Address
  created : Finset Address
  refund : Int64
  transient : Address → Word → Word
  logs : List Log

namespace FlatSubstate

/-- Nothing was added. -/
def empty : FlatSubstate := ⟨∅, ∅, 0, fun _ _ => .zero, []⟩

variable (flat : FlatSubstate)

def addDestroyed (address : Address) : FlatSubstate :=
  { flat with destroyed := insert address flat.destroyed }

def addCreated (address : Address) : FlatSubstate :=
  { flat with created := insert address flat.created }

/-- Adds to the counter, which stops at either end of its range. -/
def addRefund (change : Int64) : FlatSubstate :=
  { flat with refund := .ofIntClamp (flat.refund.toInt + change.toInt) }

def setTransient (address : Address) (key value : Word) : FlatSubstate :=
  { flat with
    transient := Function.update flat.transient address
      (Function.update (flat.transient address) key value) }

def addLog (log : Log) : FlatSubstate := { flat with logs := flat.logs ++ [log] }

end FlatSubstate

/-- The substate at work and the copies that were saved, latest first. -/
structure FlatStack where
  top : FlatSubstate
  saved : List FlatSubstate

namespace FlatStack

def start : FlatStack := ⟨.empty, []⟩

/-- One step on full copies: a backup is one more copy of the top, keeping it drops the copy below
the top, and reverting drops the top. -/
def perform : SubstateStep → FlatStack → Option Bool × FlatStack
  | .pushBackup, ⟨top, saved⟩ => (none, ⟨top, top :: saved⟩)
  | .commitBackup, ⟨top, saved⟩ => (none, ⟨top, saved.tail⟩)
  | .revertBackup, ⟨top, []⟩ => (none, ⟨top, []⟩)
  | .revertBackup, ⟨_, copy :: saved⟩ => (none, ⟨copy, saved⟩)
  | .addDestroyed address, ⟨top, saved⟩ =>
      (some (address ∈ top.destroyed), ⟨top.addDestroyed address, saved⟩)
  | .addCreated address, ⟨top, saved⟩ =>
      (some (address ∈ top.created), ⟨top.addCreated address, saved⟩)
  | .addRefund change, ⟨top, saved⟩ => (none, ⟨top.addRefund change, saved⟩)
  | .setTransient address key value, ⟨top, saved⟩ =>
      (none, ⟨top.setTransient address key value, saved⟩)
  | .addLog log, ⟨top, saved⟩ => (none, ⟨top.addLog log, saved⟩)

end FlatStack

namespace Substate

/-- A substate and a flat one that cannot be told apart. -/
structure Shows (substate : Substate) (flat : FlatSubstate) : Prop where
  logs : substate.logs = flat.logs
  refund : substate.refund = flat.refund.toInt
  transient : substate.transient = flat.transient
  isDestroyed : ∀ address, substate.isDestroyed address = true ↔ address ∈ flat.destroyed
  isCreated : ∀ address, substate.isCreated address = true ↔ address ∈ flat.created

/-- The layers below show the saved copies, each together with what is below it. -/
def Rests : List SubstateLayer → List FlatSubstate → Prop
  | [], [] => True
  | layer :: below, flat :: saved => Shows ⟨layer, below⟩ flat ∧ Rests below saved
  | [], _ :: _ => False
  | _ :: _, [] => False

/-- The substate shows the top of the stack, and so it does after each revert. -/
structure Stands (substate : Substate) (stack : FlatStack) : Prop where
  shows : substate.Shows stack.top
  rests : Rests substate.below stack.saved

variable {substate next : Substate} {flat : FlatSubstate} {stack : FlatStack}

theorem Shows.of_marks (shows : substate.Shows flat) (same : substate.SameMarks next)
    (logs : next.logs = substate.logs) (refund : next.refund = substate.refund)
    (transient : next.transient = substate.transient) : next.Shows flat where
  logs := logs.trans shows.logs
  refund := refund.trans shows.refund
  transient := transient.trans shows.transient
  isDestroyed := fun address => same.isDestroyed address ▸ shows.isDestroyed address
  isCreated := fun address => same.isCreated address ▸ shows.isCreated address

theorem Rests.length_eq {below : List SubstateLayer} {saved : List FlatSubstate}
    (rests : Rests below saved) : below.length = saved.length := by
  induction below generalizing saved with
  | nil =>
      cases saved with
      | nil => rfl
      | cons _ _ => exact rests.elim
  | cons layer below inductionHypothesis =>
      cases saved with
      | nil => exact rests.elim
      | cons flat saved => rw [List.length_cons, List.length_cons, inductionHypothesis rests.2]

/-- Either there is no backup on both sides, or the innermost one shows the latest copy. -/
theorem Rests.cases {below : List SubstateLayer} {saved : List FlatSubstate}
    (rests : Rests below saved) :
    (below = [] ∧ saved = []) ∨
      ∃ layer outer flat older, below = layer :: outer ∧ saved = flat :: older ∧
        Shows ⟨layer, outer⟩ flat ∧ Rests outer older := by
  cases below with
  | nil =>
      cases saved with
      | nil => exact .inl ⟨rfl, rfl⟩
      | cons _ _ => exact rests.elim
  | cons layer outer =>
      cases saved with
      | nil => exact rests.elim
      | cons flat older => exact .inr ⟨layer, outer, flat, older, rfl, rfl, rests.1, rests.2⟩

theorem Stands.pushBackup (stands : substate.Stands stack) :
    substate.pushBackup.Stands ⟨stack.top, stack.top :: stack.saved⟩ where
  shows := stands.shows.of_marks substate.sameMarks_pushBackup substate.logs_pushBackup rfl
    substate.transient_pushBackup
  rests := ⟨stands.shows, stands.rests⟩

theorem Stands.commitBackup (stands : substate.Stands stack) :
    substate.commitBackup.Stands ⟨stack.top, stack.saved.tail⟩ := by
  have refund : substate.commitBackup.refund = substate.refund := by
    unfold Substate.commitBackup
    split <;> rfl
  have shows : substate.commitBackup.Shows stack.top :=
    stands.shows.of_marks substate.sameMarks_commitBackup substate.logs_commitBackup refund
      substate.transient_commitBackup
  refine ⟨shows, ?_⟩
  obtain ⟨current, below⟩ := substate
  obtain ⟨top, saved⟩ := stack
  obtain ⟨rfl, rfl⟩ | ⟨layer, outer, flat, older, rfl, rfl, -, rests⟩ := stands.rests.cases
  · trivial
  · exact rests

theorem Stands.revertBackup (stands : substate.Stands stack) :
    substate.revertBackup.Stands (FlatStack.perform .revertBackup stack).2 := by
  obtain ⟨current, below⟩ := substate
  obtain ⟨top, saved⟩ := stack
  obtain ⟨rfl, rfl⟩ | ⟨layer, outer, flat, older, rfl, rfl, shows, rests⟩ := stands.rests.cases
  · exact stands
  · exact ⟨shows, rests⟩

/-- A step that only adds to the innermost layer leaves what the backups show. -/
theorem Stands.update (stands : substate.Stands stack) (below : next.below = substate.below)
    (shows : next.Shows flat) : next.Stands ⟨flat, stack.saved⟩ where
  shows := shows
  rests := below ▸ stands.rests

theorem answer_markDestroyed (address : Address) :
    (substate.markDestroyed address).1 = substate.isDestroyed address := by
  unfold markDestroyed
  split
  · rename_i known
    exact known.symm
  · rename_i unknown
    have absent := Bool.eq_false_iff.mpr unknown
    rw [absent]
    rw [isDestroyed, layers, List.any_cons, Bool.or_eq_false_iff] at absent
    exact absent.1

theorem answer_markCreated (address : Address) :
    (substate.markCreated address).1 = substate.isCreated address := by
  unfold markCreated
  split
  · rename_i known
    exact known.symm
  · rename_i unknown
    have absent := Bool.eq_false_iff.mpr unknown
    rw [absent]
    rw [isCreated, layers, List.any_cons, Bool.or_eq_false_iff] at absent
    exact absent.1

theorem Shows.addDestroyed (shows : substate.Shows flat) (address : Address) :
    (substate.addDestroyed address).Shows (flat.addDestroyed address) where
  logs := (substate.logs_addDestroyed address).trans shows.logs
  refund := (substate.refund_addDestroyed address).trans shows.refund
  transient := (substate.transient_addDestroyed address).trans shows.transient
  isDestroyed := fun other => by
    rw [isDestroyed_addDestroyed, Bool.or_eq_true, decide_eq_true_eq, shows.isDestroyed,
      FlatSubstate.addDestroyed, Finset.mem_insert, or_comm]
  isCreated := fun other => by
    rw [isCreated_addDestroyed, shows.isCreated]
    rfl

theorem Shows.addCreated (shows : substate.Shows flat) (address : Address) :
    (substate.addCreated address).Shows (flat.addCreated address) where
  logs := (substate.logs_addCreated address).trans shows.logs
  refund := (substate.refund_addCreated address).trans shows.refund
  transient := (substate.transient_addCreated address).trans shows.transient
  isDestroyed := fun other => by
    rw [isDestroyed_addCreated, shows.isDestroyed]
    rfl
  isCreated := fun other => by
    rw [isCreated_addCreated, Bool.or_eq_true, decide_eq_true_eq, shows.isCreated,
      FlatSubstate.addCreated, Finset.mem_insert, or_comm]

/-- The signed counter stops at either end, as a clamped conversion does. -/
theorem toInt_ofIntClamp_eq (value : Int) :
    (Int64.ofIntClamp value).toInt = clampInt64 value := by
  unfold Int64.ofIntClamp clampInt64
  split
  · split
    · rw [Int64.toInt_ofIntLE]
      rename_i least most
      simp only [Int64.toInt_minValue, Int64.toInt_maxValue] at least most
      omega
    · rename_i most
      simp only [Int64.toInt_maxValue] at most ⊢
      omega
  · rename_i least
    simp only [Int64.toInt_minValue] at least ⊢
    omega

theorem Shows.addRefund (shows : substate.Shows flat) (change : Int64) :
    (substate.addRefund change.toInt).Shows (flat.addRefund change) where
  logs := (substate.logs_setRefund _).trans shows.logs
  refund := by
    rw [FlatSubstate.addRefund, toInt_ofIntClamp_eq, ← shows.refund]
    rfl
  transient := shows.transient
  isDestroyed := fun address => by
    rw [Substate.addRefund, (substate.sameMarks_setRefund _).isDestroyed, shows.isDestroyed]
    rfl
  isCreated := fun address => by
    rw [Substate.addRefund, (substate.sameMarks_setRefund _).isCreated, shows.isCreated]
    rfl

theorem Shows.setTransient (shows : substate.Shows flat) (address : Address) (key value : Word) :
    (substate.setTransient address key value).Shows
      (flat.setTransient address key value) where
  logs := (substate.logs_setTransient address key value).trans shows.logs
  refund := shows.refund
  transient := by
    rw [transient_setTransient, shows.transient]
    rfl
  isDestroyed := fun other => by
    rw [(substate.sameMarks_setTransient address key value).isDestroyed, shows.isDestroyed]
    rfl
  isCreated := fun other => by
    rw [(substate.sameMarks_setTransient address key value).isCreated, shows.isCreated]
    rfl

theorem Shows.addLog (shows : substate.Shows flat) (log : Log) :
    (substate.addLog log).Shows (flat.addLog log) where
  logs := by
    rw [logs_addLog, shows.logs]
    rfl
  refund := shows.refund
  transient := shows.transient
  isDestroyed := fun address => by
    rw [(substate.sameMarks_addLog log).isDestroyed, shows.isDestroyed]
    rfl
  isCreated := fun address => by
    rw [(substate.sameMarks_addLog log).isCreated, shows.isCreated]
    rfl

theorem stands_start : Substate.empty.Stands .start where
  shows :=
    { logs := rfl
      refund := rfl
      transient := rfl
      isDestroyed := fun _ => by simp [isDestroyed, layers, empty, SubstateLayer.start,
        FlatStack.start, FlatSubstate.empty]
      isCreated := fun _ => by simp [isCreated, layers, empty, SubstateLayer.start,
        FlatStack.start, FlatSubstate.empty] }
  rests := trivial

/-- Every step gives the answer of the full copies and leaves the two alike. -/
theorem Stands.perform (step : SubstateStep) (substate : Substate) (stack : FlatStack)
    (stands : substate.Stands stack) :
    (Substate.perform step substate).1 = (FlatStack.perform step stack).1 ∧
      (Substate.perform step substate).2.Stands (FlatStack.perform step stack).2 := by
  have shows := stands.shows
  cases step with
  | pushBackup => exact ⟨rfl, stands.pushBackup⟩
  | commitBackup => exact ⟨rfl, stands.commitBackup⟩
  | revertBackup =>
      refine ⟨?_, stands.revertBackup⟩
      cases stack with
      | mk top saved => cases saved <;> rfl
  | addDestroyed address =>
      have answer : (substate.markDestroyed address).1 =
          decide (address ∈ stack.top.destroyed) := by
        rw [answer_markDestroyed, Bool.eq_iff_iff, shows.isDestroyed, decide_eq_true_eq]
      exact ⟨congrArg some answer,
        stands.update (substate.below_addDestroyed address) (shows.addDestroyed address)⟩
  | addCreated address =>
      have answer : (substate.markCreated address).1 =
          decide (address ∈ stack.top.created) := by
        rw [answer_markCreated, Bool.eq_iff_iff, shows.isCreated, decide_eq_true_eq]
      exact ⟨congrArg some answer,
        stands.update (substate.below_addCreated address) (shows.addCreated address)⟩
  | addRefund change => exact ⟨rfl, stands.update rfl (shows.addRefund change)⟩
  | setTransient address key value =>
      exact ⟨rfl, stands.update rfl (shows.setTransient address key value)⟩
  | addLog log => exact ⟨rfl, stands.update rfl (shows.addLog log)⟩

/-- Substates behave as a stack of full copies: whatever is done to a new one, in whatever order,
all answers are those of the copies, and no observation tells the two apart afterwards. -/
theorem backups_are_copies (steps : List SubstateStep) :
    let (answers, substate) := performAll Substate.perform steps .empty
    let (expected, stack) := performAll FlatStack.perform steps .start
    answers = expected ∧ substate.Shows stack.top ∧
      (∀ address, address ∈ substate.destroyedAddresses ↔ address ∈ stack.top.destroyed) ∧
      substate.destroyedAddresses.Pairwise (·.toNat < ·.toNat) ∧
      substate.backupDepth = stack.saved.length := by
  obtain ⟨answers, stands⟩ := performAll_agrees Stands.perform steps stands_start
  refine ⟨answers, stands.shows, ?_, Address.sortedDistinct_increasing _, stands.rests.length_eq⟩
  intro address
  rw [mem_destroyedAddresses, stands.shows.isDestroyed]

end Substate

end CancunMachine
