import Mathlib.Tactic
import CancunMachine.World.Basic

/-!
# The journal in layers

The marks cut the log into layers, one for every open checkpoint: the records that were left since
it was opened and before the next one was. Read that way, a record goes to the innermost layer, a new
checkpoint is an empty layer, a commit hands a layer to the enclosing one, and a revert plays the
innermost layer back and drops it.
-/

namespace CancunMachine

namespace Journal

/-- The records beyond each mark, innermost first. -/
def cut : List Undo → List Nat → List (List Undo)
  | _, [] => []
  | log, mark :: marks =>
      log.take (log.length - mark) :: cut (log.drop (log.length - mark)) marks

/-- One layer of records per open checkpoint, the latest ones first. -/
def layers (journal : Journal) : List (List Undo) := cut journal.log journal.marks

variable {journal : Journal} {log : List Undo} {mark : Nat} {marks : List Nat}

theorem length_cut (log : List Undo) (marks : List Nat) : (cut log marks).length = marks.length := by
  induction marks generalizing log with
  | nil => rfl
  | cons mark marks inductionHypothesis =>
      rw [cut, List.length_cons, List.length_cons, inductionHypothesis]

theorem length_layers (journal : Journal) : journal.layers.length = journal.marks.length :=
  length_cut _ _

/-- What comes after the innermost mark belongs to its layer. -/
theorem cut_cons (undo : Undo) (within : mark ≤ log.length) :
    cut (undo :: log) (mark :: marks) = (cut log (mark :: marks)).modifyHead (undo :: ·) := by
  have longer : (undo :: log).length - mark = log.length - mark + 1 := by
    rw [List.length_cons]
    omega
  rw [cut, longer, List.take_succ_cons, List.drop_succ_cons]
  rfl

/-- Without its innermost mark, the log has the two innermost layers as one. -/
theorem cut_merge {outer : Nat} (within : mark ≤ log.length) (earlier : outer ≤ mark) :
    cut log (outer :: marks) =
      (cut (log.drop (log.length - mark)) (outer :: marks)).modifyHead
        (log.take (log.length - mark) ++ ·) := by
  have left : (log.drop (log.length - mark)).length = mark := by
    rw [List.length_drop]
    omega
  have together : log.length - outer = log.length - mark + (mark - outer) := by omega
  rw [cut, cut, left, together, List.take_add, List.drop_drop]
  rfl

theorem layers_record (journal : Journal) (undo : Undo) :
    (journal.record undo).layers = journal.layers.modifyHead (undo :: ·) := by
  obtain ⟨log, marks, descending⟩ := journal
  unfold record isOpen layers
  cases marks with
  | nil => rfl
  | cons mark marks =>
      exact cut_cons undo ((List.pairwise_cons.mp descending).1 mark List.mem_cons_self)

theorem layers_mark (journal : Journal) : journal.mark.layers = [] :: journal.layers := by
  unfold layers mark
  rw [cut, Nat.sub_self, List.take_zero, List.drop_zero]

/-- Forgetting a mark hands its layer to the enclosing one, if there is one. -/
theorem forget?_eq (journal : Journal) :
    (journal.layers = [] ∧ journal.forget? = none) ∨
      ∃ layer outer committed, journal.layers = layer :: outer ∧
        journal.forget? = some committed ∧ committed.layers = outer.modifyHead (layer ++ ·) := by
  obtain ⟨log, marks, descending⟩ := journal
  rcases marks with _ | ⟨mark, _ | ⟨outer, marks⟩⟩
  · exact .inl ⟨rfl, rfl⟩
  · exact .inr ⟨_, _, _, rfl, rfl, rfl⟩
  · have within := (List.pairwise_cons.mp descending).1 mark List.mem_cons_self
    have earlier := (List.pairwise_cons.mp (List.pairwise_cons.mp descending).2).1 outer
      List.mem_cons_self
    exact .inr ⟨_, _, _, rfl, rfl, cut_merge within earlier⟩

end Journal

namespace World

/-- The layers of the journal of a world. -/
def layers (world : World) : List (List Undo) := world.journal.layers

theorem length_layers (world : World) : world.layers.length = world.checkpointDepth :=
  world.journal.length_layers

theorem layers_eq_nil_iff {world : World} : world.layers = [] ↔ world.journal.marks = [] := by
  rw [← List.length_eq_zero_iff, ← List.length_eq_zero_iff, length_layers]
  rfl

theorem layers_record (world : World) (undo : Undo) :
    (world.record undo).layers = world.layers.modifyHead (undo :: ·) :=
  world.journal.layers_record undo

theorem layers_checkpoint (world : World) : world.checkpoint.layers = [] :: world.layers :=
  world.journal.layers_mark

/-- Rewinding to a mark plays the records beyond it back. -/
theorem rewind_eq (mark : Nat) (log : List Undo) (world : World) :
    (rewind mark log world).1 = (log.take (log.length - mark)).foldl undo world := by
  induction log generalizing world with
  | nil => rw [rewind, List.take_nil, List.foldl_nil]
  | cons latest earlier inductionHypothesis =>
      rw [rewind, List.length_cons]
      split
      · rw [inductionHypothesis, show earlier.length + 1 - mark = earlier.length - mark + 1 by omega,
          List.take_succ_cons, List.foldl_cons]
      · rw [show earlier.length + 1 - mark = 0 by omega, List.take_zero, List.foldl_nil]

/-- A commit fails without an open checkpoint; otherwise it hands the innermost layer on. -/
theorem commit_eq (world : World) :
    (world.layers = [] ∧ world.commit = .error (.noCheckpoint .commit)) ∨
      ∃ layer outer journal, world.layers = layer :: outer ∧
        world.commit = .ok { world with journal } ∧
        journal.layers = outer.modifyHead (layer ++ ·) := by
  unfold commit
  rcases world.journal.forget?_eq with ⟨closed, none⟩ | ⟨layer, outer, journal, cut, some, merged⟩
  · rw [none]
    exact .inl ⟨closed, rfl⟩
  · rw [some]
    exact .inr ⟨layer, outer, journal, cut, rfl, merged⟩

/-- A revert fails without an open checkpoint; otherwise it plays the innermost layer back. -/
theorem revert_eq (world : World) :
    (world.layers = [] ∧ world.revert = .error (.noCheckpoint .revert)) ∨
      ∃ layer outer journal, world.layers = layer :: outer ∧
        world.revert = .ok { layer.foldl undo world with journal } ∧ journal.layers = outer := by
  have layered : world.layers = Journal.cut world.journal.log world.journal.marks := rfl
  unfold revert
  split
  · rename_i closed
    exact .inl ⟨by rw [layered, closed, Journal.cut], rfl⟩
  · rename_i mark outer marked
    have left : Journal.layers ⟨(rewind mark world.journal.log world).2, outer,
        descending_rewind marked⟩ =
          Journal.cut (world.journal.log.drop (world.journal.log.length - mark)) outer :=
      congrArg (Journal.cut · outer) (log_rewind mark world.journal.log world)
    refine .inr ⟨_, _, _, by rw [layered, marked, Journal.cut], ?_, left⟩
    rw [← rewind_eq]

end World

end CancunMachine
