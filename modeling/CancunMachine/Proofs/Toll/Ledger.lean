import Mathlib.Tactic
import CancunMachine.Proofs.Evolution.Visits
import CancunMachine.Proofs.History.Survivors

/-!
# Ledgers of a run

A ledger is kept along the instructions of a run: first what is noted of an instruction when it is
fetched, then what is noted in the child that it starts, with the end of the child, and then the
rest. An item stands as long as no frame that contains it has failed after it was noted.
-/

namespace CancunMachine

open Ending

variable {Item : Type}

/-- What is noted in a frame: an item, or how the frame has been left. -/
inductive Note (Item : Type)
  | item (item : Item)
  | left (succeeded : Bool)
deriving DecidableEq

/-- A line of a ledger. -/
structure Line (Item : Type) where
  frame : FrameName
  note : Note Item
deriving DecidableEq

/-- An item has been noted, and no frame that contains it has failed since. -/
def Stands (past : List (Line Item)) (item : Item) : Prop :=
  ∃ early frame late, past = early ++ ⟨frame, .item item⟩ :: late ∧
    ∀ exit ∈ late, exit.note = .left false → ¬exit.frame <:+ frame

/-- What stands in the end was noted at some time, and has stood since. -/
theorem stands_append {past told : List (Line Item)} {item : Item}
    (stands : Stands (past ++ told) item) : Stands past item ∨ Stands told item := by
  obtain ⟨early, frame, late, split, standing⟩ := stands
  rcases List.append_eq_append_iff.mp split with ⟨between, rfl, rfl⟩ | ⟨between, rfl, rest⟩
  · exact .inr ⟨between, frame, late, rfl, standing⟩
  · cases between with
    | nil => exact .inr ⟨[], frame, late, rest.symm, standing⟩
    | cons first between =>
        simp only [List.cons_append, List.cons.injEq] at rest
        obtain ⟨rfl, rfl⟩ := rest
        refine .inl ⟨early, frame, between, rfl, fun exit member => ?_⟩
        exact standing exit (List.mem_append_left _ member)

/-- Only what does not stand, and was not given from the beginning, is noted; `past` being what has
been noted before. -/
def Sparing (given : Item → Prop) : List (Line Item) → List (Line Item) → Prop
  | _, [] => True
  | past, line :: rest =>
      (∀ item, line.note = .item item → ¬(given item ∨ Stands past item)) ∧
        Sparing given (past ++ [line]) rest

theorem sparing_append {given : Item → Prop} {past first second : List (Line Item)} :
    Sparing given past (first ++ second) ↔
      Sparing given past first ∧ Sparing given (past ++ first) second := by
  induction first generalizing past with
  | nil => simp [Sparing]
  | cons line first inductionHypothesis =>
      simp only [List.cons_append, Sparing, inductionHypothesis, List.append_assoc,
        List.nil_append, and_assoc]

/-- What is noted twice was first noted in a frame that has failed before the second time. -/
theorem Sparing.failed {given : Item → Prop} {past middle future : List (Line Item)}
    {first second : FrameName} {item : Item}
    (sparing : Sparing given []
      (past ++ ⟨first, .item item⟩ :: middle ++ ⟨second, .item item⟩ :: future)) :
    ∃ frame, ⟨frame, .left false⟩ ∈ middle ∧ frame <:+ first := by
  by_contra none
  have fresh := (sparing_append.mp sparing).2.1 item rfl
  refine fresh (.inr ⟨past, first, middle, rfl, fun exit member fails contains => ?_⟩)
  obtain ⟨frame, note⟩ := exit
  cases fails
  exact none ⟨frame, member, contains⟩

namespace Interpreter

variable (host : Host) (noted : Machine → Option Item)

/-- What is noted between the opening of a frame and its end; `below` tells it for its
instructions. -/
def bodyLedger (below : Machine → List (Line Item)) (transfer : Transfer) (opened : Machine) :
    List (Line Item) :=
  match startFrame host transfer opened with
  | .ok none started => below started
  | _ => []

/-- What is noted in a frame from its entry to its exit. -/
def frameLedger (name : FrameName) (below : Machine → List (Line Item)) (body : Run Outcome)
    (transfer : Transfer) (entered : Machine) : List (Line Item) :=
  bodyLedger host below transfer (entered.opened host) ++
    match runFrame host body transfer entered with
    | .ok outcome _ => [⟨name, .left outcome.isSuccess⟩]
    | .error _ _ => []

/-- What is noted in the child that an instruction has prepared, if it has. -/
def childLedger (name : FrameName) (below : Machine → List (Line Item)) (body : Run Outcome)
    (prepared : EStateM.Result Failure Machine (Option Entry)) : List (Line Item) :=
  match prepared with
  | .ok (some entry) ready =>
      frameLedger host name below body entry.transfer (ready.entering entry.child)
  | _ => []

/-- What is noted of an instruction when it is fetched. -/
def ownLedger (name : FrameName) (machine : Machine) : List (Line Item) :=
  ((noted machine).map fun item => ⟨name, .item item⟩).toList

/-- What is noted once an instruction has been executed that lets its frame go on. -/
def laterLedger (below : Machine → List (Line Item))
    (executed : EStateM.Result Failure Machine Signal) : List (Line Item) :=
  match executed with
  | .ok .proceed next => below next
  | _ => []

/-- What is noted while a frame runs its instructions, in the frame itself and below it. Frames have
the same names as in a history. -/
def ledger : Nat → FrameName → Machine → List (Line Item)
  | 0, _, _ => []
  | budget + 1, name, machine =>
      ownLedger noted name machine ++
        childLedger host (budget :: name) (ledger budget (budget :: name)) (run host budget)
          (Instruction.preparation host machine.nextOpcode machine.fetched) ++
        laterLedger (ledger budget name)
          (Instruction.execute host (runFrame host (run host budget)) machine.nextOpcode
            machine.fetched)

/-- What is noted of the instructions of the outermost frame, which has the empty name. -/
def wholeLedger (started : Machine) : List (Line Item) :=
  ledger host noted (stepBudget started.frame.gas) [] started

end Interpreter

/-- What is noted while a message is executed. -/
def Transaction.ledger (host : Host) (noted : Machine → Option Item) (machine : Machine) :
    List (Line Item) :=
  match prepareAll host machine with
  | .ok _ ready =>
      Interpreter.frameLedger host [] (Interpreter.wholeLedger host noted)
        (Interpreter.runInstructions host) (payment host ready) ready
  | .error _ _ => []

variable {host : Host} {noted : Machine → Option Item} {machine visited : Machine} {item : Item}

end CancunMachine
