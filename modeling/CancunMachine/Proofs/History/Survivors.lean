import Mathlib.Tactic
import CancunMachine.Substate

/-!
# What survives of a history

A history lists what the frames of a message do to storage, to transient storage and to the logs,
and how they end. Frames are named after the way that leads to them, so a frame contains all that
happens under names that end in its own. A deed survives until a frame that contains it fails, and
the deeds that survive determine what slots and logs there are.
-/

namespace CancunMachine

deriving instance DecidableEq for Log

/-- What the frames of a message do to slots and logs, and how they end. -/
inductive Deed
  | slotWritten (address : Address) (key value : Word)
  | transientWritten (address : Address) (key value : Word)
  | logged (log : Log)
  | slotRead (address : Address) (key value : Word)
  | transientRead (address : Address) (key value : Word)
  | left (succeeded : Bool)
deriving DecidableEq

/-- A frame is named after the moments at which the frames on the way to it have been entered,
innermost first. -/
abbrev FrameName := List Nat

/-- A deed and the frame it was done in. -/
structure Happening where
  frame : FrameName
  deed : Deed
deriving DecidableEq

namespace Deed

/-- The end of a frame that has failed. -/
def isFailure : Deed → Bool
  | left succeeded => !succeeded
  | _ => false

def isExit : Deed → Bool
  | left _ => true
  | _ => false

/-- The value that a deed writes to a slot. -/
def slotWritten? (address : Address) (key : Word) : Deed → Option Word
  | slotWritten owner slot value => if owner = address ∧ slot = key then some value else none
  | _ => none

def transientWritten? (address : Address) (key : Word) : Deed → Option Word
  | transientWritten owner slot value => if owner = address ∧ slot = key then some value else none
  | _ => none

def logged? : Deed → Option Log
  | logged log => some log
  | _ => none

end Deed

/-- No frame that contains a happening has failed so far. -/
def Survives (past : List Happening) (happening : Happening) : Prop :=
  ∀ exit ∈ past, exit.deed.isFailure = true → ¬exit.frame <:+ happening.frame

instance (past : List Happening) : DecidablePred (Survives past) := fun happening =>
  inferInstanceAs (Decidable
    (∀ exit ∈ past, exit.deed.isFailure = true → ¬exit.frame <:+ happening.frame))

/-- What has survived so far, in the order in which it has happened. -/
def survivors (past : List Happening) : List Happening :=
  past.filter fun happening => Survives past happening

/-- The value of the latest write to a slot that has survived. -/
def latestSlot? (past : List Happening) (address : Address) (key : Word) : Option Word :=
  ((survivors past).filterMap (·.deed.slotWritten? address key)).getLast?

def latestTransient? (past : List Happening) (address : Address) (key : Word) : Option Word :=
  ((survivors past).filterMap (·.deed.transientWritten? address key)).getLast?

def survivingLogs (past : List Happening) : List Log :=
  (survivors past).filterMap (·.deed.logged?)

/-- What the frames of a message can find: storage, transient storage and logs. -/
@[ext]
structure Holdings where
  slots : Address → Word → Word
  transient : Address → Word → Word
  logs : List Log

namespace Holdings

/-- The holdings once a deed is done. -/
def after (holdings : Holdings) : Deed → Holdings
  | .slotWritten address key value => { holdings with
      slots := Function.update holdings.slots address
        (Function.update (holdings.slots address) key value) }
  | .transientWritten address key value => { holdings with
      transient := Function.update holdings.transient address
        (Function.update (holdings.transient address) key value) }
  | .logged log => { holdings with logs := holdings.logs ++ [log] }
  | .slotRead _ _ _ | .transientRead _ _ _ | .left _ => holdings

/-- The holdings once everything that survives is done. -/
def recalled (initial : Holdings) (past : List Happening) : Holdings :=
  (survivors past).foldl (fun holdings happening => holdings.after happening.deed) initial

/-- What a deed reads is what is there. -/
def Confirms (holdings : Holdings) : Deed → Prop
  | .slotRead address key value => value = holdings.slots address key
  | .transientRead address key value => value = holdings.transient address key
  | _ => True

end Holdings

theorem survives_append {past more : List Happening} {happening : Happening} :
    Survives (past ++ more) happening ↔ Survives past happening ∧ Survives more happening := by
  simp only [Survives, List.mem_append, or_imp, forall_and]

theorem survives_singleton {exit happening : Happening} :
    Survives [exit] happening ↔
      (exit.deed.isFailure = true → ¬exit.frame <:+ happening.frame) := by
  simp [Survives]

/-- As long as its frame goes on, a deed survives, and it takes nothing back. -/
theorem survivors_concat {past : List Happening} {happening : Happening}
    (harmless : happening.deed.isFailure = false) (survives : Survives past happening) :
    survivors (past ++ [happening]) = survivors past ++ [happening] := by
  have same : ∀ other, Survives (past ++ [happening]) other ↔ Survives past other := by
    intro other
    simp [survives_append, survives_singleton, harmless]
  simp [survivors, same, survives]

/-- A frame that fails takes back all that has happened in it, and nothing else. -/
theorem survivors_undone {past undone : List Happening} {frame : FrameName}
    (within : ∀ happening ∈ undone, frame <:+ happening.frame)
    (apart : ∀ happening ∈ past, ¬frame <:+ happening.frame)
    (fails : ⟨frame, .left false⟩ ∈ undone) : survivors (past ++ undone) = survivors past := by
  have kept : ∀ happening ∈ past,
      (Survives (past ++ undone) happening ↔ Survives past happening) := by
    intro happening member
    have untouched : Survives undone happening := by
      intro exit inside _ contains
      exact apart happening member ((within exit inside).trans contains)
    simp [survives_append, untouched]
  have lost : ∀ happening ∈ undone, ¬Survives (past ++ undone) happening := by
    intro happening member survives
    exact (survives_append.mp survives).2 _ fails rfl (within happening member)
  have first : past.filter (fun happening => Survives (past ++ undone) happening) =
      past.filter fun happening => Survives past happening := by
    apply List.filter_congr
    intro happening member
    simp only [kept happening member]
  have second : undone.filter (fun happening => Survives (past ++ undone) happening) = [] := by
    apply List.filter_eq_nil_iff.mpr
    intro happening member
    simpa using lost happening member
  unfold survivors
  rw [List.filter_append, first, second, List.append_nil]

namespace Holdings

variable {initial : Holdings} {past : List Happening}

/-- A deed in a frame that goes on is done to what is recalled. -/
theorem recalled_concat {happening : Happening} (harmless : happening.deed.isFailure = false)
    (survives : Survives past happening) :
    initial.recalled (past ++ [happening]) = (initial.recalled past).after happening.deed := by
  unfold recalled
  rw [survivors_concat harmless survives, List.foldl_concat]

theorem recalled_undone {undone : List Happening} {frame : FrameName}
    (within : ∀ happening ∈ undone, frame <:+ happening.frame)
    (apart : ∀ happening ∈ past, ¬frame <:+ happening.frame)
    (fails : ⟨frame, .left false⟩ ∈ undone) :
    initial.recalled (past ++ undone) = initial.recalled past := by
  unfold recalled
  rw [survivors_undone within apart fails]

theorem update_update_apply (slots : Address → Word → Word) (owner address : Address)
    (slot key value : Word) :
    Function.update slots owner (Function.update (slots owner) slot value) address key =
      (if owner = address ∧ slot = key then some value else none).getD (slots address key) := by
  by_cases own : owner = address
  · subst own
    by_cases same : slot = key
    · simp [same]
    · simp [same, Function.update_of_ne (Ne.symm same)]
  · simp [own, Function.update_of_ne (Ne.symm own)]

theorem slots_after (holdings : Holdings) (deed : Deed) (address : Address) (key : Word) :
    (holdings.after deed).slots address key =
      (deed.slotWritten? address key).getD (holdings.slots address key) := by
  cases deed with
  | slotWritten owner slot value => exact update_update_apply _ _ _ _ _ _
  | _ => rfl

theorem transient_after (holdings : Holdings) (deed : Deed) (address : Address) (key : Word) :
    (holdings.after deed).transient address key =
      (deed.transientWritten? address key).getD (holdings.transient address key) := by
  cases deed with
  | transientWritten owner slot value => exact update_update_apply _ _ _ _ _ _
  | _ => rfl

theorem logs_after (holdings : Holdings) (deed : Deed) :
    (holdings.after deed).logs = holdings.logs ++ deed.logged?.toList := by
  cases deed <;> simp [after, Deed.logged?]

/-- Where each deed either writes a value or leaves the old one, the latest write counts. -/
theorem latest_foldl (view : Holdings → Word) (written? : Deed → Option Word)
    (step : ∀ holdings deed, view (holdings.after deed) = (written? deed).getD (view holdings))
    (happenings : List Happening) :
    view (happenings.foldl (fun holdings happening => holdings.after happening.deed) initial) =
      (happenings.filterMap (written? ·.deed)).getLast?.getD (view initial) := by
  induction happenings using List.reverseRecOn with
  | nil => rfl
  | append_singleton happenings happening inductionHypothesis =>
      rw [List.foldl_concat, step, inductionHypothesis, List.filterMap_append,
        List.getLast?_append]
      cases written : written? happening.deed <;> simp [written]

/-- A recalled slot has the value of the latest write that survives, or else the initial one. -/
theorem slots_recalled (address : Address) (key : Word) :
    (initial.recalled past).slots address key =
      (latestSlot? past address key).getD (initial.slots address key) :=
  latest_foldl (·.slots address key) (·.slotWritten? address key)
    (fun holdings deed => slots_after holdings deed address key) (survivors past)

theorem transient_recalled (address : Address) (key : Word) :
    (initial.recalled past).transient address key =
      (latestTransient? past address key).getD (initial.transient address key) :=
  latest_foldl (·.transient address key) (·.transientWritten? address key)
    (fun holdings deed => transient_after holdings deed address key) (survivors past)

theorem logs_recalled :
    (initial.recalled past).logs = initial.logs ++ survivingLogs past := by
  unfold recalled survivingLogs
  generalize survivors past = happenings
  induction happenings using List.reverseRecOn with
  | nil => simp
  | append_singleton happenings happening inductionHypothesis =>
      rw [List.foldl_concat, logs_after, inductionHypothesis, List.filterMap_append,
        List.append_assoc]
      cases logged : happening.deed.logged? <;> simp [logged]

end Holdings

end CancunMachine
