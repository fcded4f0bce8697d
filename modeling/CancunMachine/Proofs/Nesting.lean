import Mathlib.Tactic
import CancunMachine.Proofs.History.Faithful
import CancunMachine.Proofs.Tracing.Message

/-!
# The reports to a tracer are nested

The entries and exits that a tracer hears of a message are well bracketed, with every frame one
level below the one that has started it. Before the exit of a frame stands its own last write, if it
has written at all, and in between stand the reads and writes as they happen, if they are tracked.
This depends on the collaborator at the end of frames: if it fails a frame that has failed already,
and the message goes on, then the exit of that frame is never reported.
-/

namespace CancunMachine

open Ending

namespace Event

def isEntry : Event → Bool
  | .enter _ => true
  | _ => false

def isExit : Event → Bool
  | .exit _ _ => true
  | _ => false

def isBracket (event : Event) : Bool := event.isEntry || event.isExit

/-- Whether an event reports an access to a slot as it happens. -/
def isAccess : Event → Bool
  | .read _ _ _ | .written _ _ _ => true
  | _ => false

end Event

/-- Events whose entries and exits belong together in pairs. The outermost pairs are those of frames
at `depth`, and those inside a pair are one level further down. -/
inductive Bracketed : Nat → List Event → Prop
  | nil {depth : Nat} : Bracketed depth []
  | aside {depth : Nat} {event : Event} {later : List Event} :
      event.isBracket = false → Bracketed depth later → Bracketed depth (event :: later)
  | pair {invocation : Invocation} {outcome : Outcome} {inside later : List Event} :
      Bracketed (invocation.depth + 1) inside → Bracketed invocation.depth later →
      Bracketed invocation.depth
        (.enter invocation :: (inside ++ .exit invocation.depth outcome :: later))

namespace Bracketed

variable {depth : Nat} {early later : List Event}

theorem append (first : Bracketed depth early) (second : Bracketed depth later) :
    Bracketed depth (early ++ later) := by
  induction first with
  | nil => exact second
  | aside other _ inductionHypothesis => exact .aside other (inductionHypothesis second)
  | @pair invocation outcome inside after within _ _ inductionHypothesis =>
      have longer := @pair invocation outcome _ _ within (inductionHypothesis second)
      simpa using longer

theorem of_asides (others : ∀ event ∈ early, event.isBracket = false) : Bracketed depth early := by
  induction early with
  | nil => exact .nil
  | cons event rest inductionHypothesis =>
      exact .aside (others event List.mem_cons_self) (inductionHypothesis fun other member =>
        others other (List.mem_cons_of_mem _ member))

/-- There are as many exits as entries. -/
theorem balanced {events : List Event} (bracketed : Bracketed depth events) :
    events.countP (·.isEntry) = events.countP (·.isExit) := by
  induction bracketed with
  | nil => rfl
  | @aside _ event _ other _ inductionHypothesis =>
      obtain ⟨noEntry, noExit⟩ := Bool.or_eq_false_iff.mp other
      simpa [List.countP_cons, noEntry, noExit] using inductionHypothesis
  | @pair invocation outcome _ _ _ _ within after =>
      have entry : (Event.enter invocation).isEntry = true := rfl
      have noExit : (Event.enter invocation).isExit = false := rfl
      have noEntry : (Event.exit invocation.depth outcome).isEntry = false := rfl
      have exit : (Event.exit invocation.depth outcome).isExit = true := rfl
      simp only [List.countP_cons, List.countP_append, entry, noExit, noEntry, exit, if_true,
        if_false, Bool.false_eq_true]
      omega

end Bracketed

namespace Story

variable {story : Story} {depth : Nat}

/-- The reports of a story in which every frame is left are well bracketed. -/
theorem bracketed (tracks : Bool) (settled : story.Settled) (descends : story.Descends depth) :
    Bracketed depth (story.reports tracks) := by
  induction descends with
  | nothing => exact .nil
  | @deed depth done rest _ inductionHypothesis =>
      cases settled with
      | deed later =>
          refine Bracketed.append (.of_asides fun event member => ?_) (inductionHypothesis later)
          cases tracks with
          | false => cases member
          | true =>
              obtain told := Option.mem_toList.mp member
              cases done <;> cases told <;> rfl
  | @child label invocation inside rest outcome? _ _ within after =>
      cases settled with
      | @child _ _ _ _ outcome settledInside settledLater =>
          have written : Bracketed (invocation.depth + 1)
              (inside.reports tracks ++ (inside.lastWrite?.map fun write =>
                .updated invocation.recipient write.1 write.2).toList) := by
            refine (within settledInside).append (.of_asides fun event member => ?_)
            obtain ⟨write, _, rfl⟩ := Option.map_eq_some_iff.mp (Option.mem_toList.mp member)
            rfl
          have paired := @Bracketed.pair invocation outcome _ _ written (after settledLater)
          simpa [reports, ending] using paired

/-- The reads and writes that are reported as they happen are the deeds of the frames. -/
theorem accesses (tracks : Bool) (name : FrameName) (story : Story) :
    (story.reports tracks).filter (·.isAccess) =
      if tracks then (story.happenings name).filterMap (·.deed.report?) else [] := by
  induction story generalizing name with
  | nothing => cases tracks <;> rfl
  | deed done rest inductionHypothesis =>
      cases tracks with
      | false => simpa [reports] using inductionHypothesis name
      | true =>
          have told := inductionHypothesis name
          cases done <;> simpa [reports, happenings, Deed.report?, Event.isAccess] using told
  | child label invocation inside outcome? rest within after =>
      have ends : (inside.ending invocation outcome?).filter (·.isAccess) = [] := by
        cases outcome? with
        | none => rfl
        | some outcome =>
            cases written : inside.lastWrite? <;> simp [ending, written, Event.isAccess]
      have silent : ((outcome?.map fun outcome =>
          (⟨label :: name, .left outcome.isSuccess⟩ : Happening)).toList).filterMap
            (·.deed.report?) = [] := by
        cases outcome? <;> rfl
      rw [reports, List.filter_cons_of_neg (by simp [Event.isAccess]), List.filter_append,
        List.filter_append, ends, within (label :: name), after name]
      cases tracks with
      | false => rfl
      | true => simp [happenings, silent]

/-- The frames below a frame, by their names, each with what happens inside it. -/
def frames (name : FrameName) : Story → List (FrameName × Story)
  | nothing => []
  | deed _ rest => rest.frames name
  | child label _ inside _ rest =>
      (label :: name, inside) :: (inside.frames (label :: name) ++ rest.frames name)

end Story

/-- The writes that a frame has done itself, earliest first. -/
def FrameName.writes (name : FrameName) (happened : List Happening) : List (Word × Word) :=
  (happened.filter (·.frame = name)).filterMap (·.deed.write?)

namespace FrameName

variable {name : FrameName}

@[simp]
theorem writes_append (early late : List Happening) :
    name.writes (early ++ late) = name.writes early ++ name.writes late := by
  simp [writes]

theorem writes_of_absent {happened : List Happening}
    (absent : ∀ happening ∈ happened, happening.frame ≠ name) : name.writes happened = [] := by
  unfold writes
  rw [List.filter_eq_nil_iff.mpr fun happening member => by simpa using absent happening member]
  rfl

@[simp]
theorem writes_left (place : FrameName) (outcome? : Option Outcome) :
    name.writes (outcome?.map fun outcome => ⟨place, .left outcome.isSuccess⟩).toList = [] := by
  cases outcome? with
  | none => rfl
  | some outcome =>
      by_cases same : place = name <;> simp [writes, same, Deed.write?]

end FrameName

namespace Story

variable {story : Story} {bound : Nat} {name : FrameName}

/-- What a story tells happens in its frame or below one of the children of this frame. -/
theorem place_of_happenings (counted : story.Counted bound) {happening : Happening}
    (member : happening ∈ story.happenings name) :
    happening.frame = name ∨ ∃ label < bound, label :: name <:+ happening.frame := by
  induction counted generalizing name with
  | nothing => cases member
  | deed _ inductionHypothesis =>
      rcases List.mem_cons.mp member with rfl | later
      · exact .inl rfl
      · exact inductionHypothesis later
  | @child bound label _ _ _ _ small _ _ within after =>
      rcases List.mem_append.mp member with early | later
      · refine .inr ⟨label, small, ?_⟩
        rcases List.mem_append.mp early with below | left
        · rcases within below with same | ⟨deeper, _, contains⟩
          · exact same ▸ List.suffix_refl _
          · exact (List.suffix_cons _ _).trans contains
        · obtain ⟨outcome, _, rfl⟩ := Option.map_eq_some_iff.mp (Option.mem_toList.mp left)
          exact List.suffix_refl _
      · exact (after later).imp id fun ⟨other, less, contains⟩ =>
          ⟨other, less.trans small, contains⟩

/-- Nothing that a story tells happens in a frame that is elsewhere. -/
theorem writes_elsewhere (counted : story.Counted bound) {place : FrameName} (other : place ≠ name)
    (outside : ∀ label < bound, ¬label :: name <:+ place) :
    place.writes (story.happenings name) = [] := by
  refine FrameName.writes_of_absent fun happening member same => ?_
  rcases place_of_happenings counted member with here | ⟨label, small, contains⟩
  · exact other (same.symm.trans here)
  · exact outside label small (same ▸ contains)

theorem place_of_frames (counted : story.Counted bound) {frame : FrameName × Story}
    (member : frame ∈ story.frames name) : ∃ label < bound, label :: name <:+ frame.1 := by
  induction counted generalizing name with
  | nothing => cases member
  | deed _ inductionHypothesis => exact inductionHypothesis member
  | @child bound label _ _ _ _ small _ _ within after =>
      rcases List.mem_cons.mp member with rfl | further
      · exact ⟨label, small, List.suffix_refl _⟩
      rcases List.mem_append.mp further with below | later
      · obtain ⟨_, _, contains⟩ := within below
        exact ⟨label, small, (List.suffix_cons _ _).trans contains⟩
      · obtain ⟨other, less, contains⟩ := after later
        exact ⟨other, less.trans small, contains⟩

theorem ne_of_cons_suffix {label : Nat} {place : FrameName} (contains : label :: name <:+ place) :
    place ≠ name := by
  rintro rfl
  exact not_cons_suffix_self label _ contains

/-- The last write of a frame is its own: those of the frames below it do not count. -/
theorem lastWrite?_eq (counted : story.Counted bound) (name : FrameName) :
    story.lastWrite? = (name.writes (story.happenings name)).getLast? := by
  induction counted generalizing name with
  | nothing => rfl
  | @deed _ done rest _ inductionHypothesis =>
      rw [lastWrite?, inductionHypothesis name]
      cases written : done.write? <;>
        simp [happenings, FrameName.writes, written, List.getLast?_cons]
  | @child _ label _ _ _ _ _ inside _ _ after =>
      have below := writes_elsewhere inside (List.cons_ne_self label name).symm
        fun _ _ contains => not_cons_suffix_self label name ((List.suffix_cons _ _).trans contains)
      rw [lastWrite?, after name]
      simp [happenings, below]

/-- What a frame below has written last is told in the story of the whole under its name. -/
theorem lastWrite?_of_frames (counted : story.Counted bound) {frame : FrameName × Story}
    (member : frame ∈ story.frames name) :
    frame.2.lastWrite? = (frame.1.writes (story.happenings name)).getLast? := by
  induction counted generalizing name with
  | nothing => cases member
  | @deed _ done rest counted inductionHypothesis =>
      obtain ⟨label, _, contains⟩ := place_of_frames counted member
      have other := ne_of_cons_suffix contains
      rw [inductionHypothesis member]
      simp [happenings, FrameName.writes, other.symm]
  | @child _ label _ _ _ _ _ inside rest within after =>
      rcases List.mem_cons.mp member with rfl | further
      · have elsewhere := writes_elsewhere rest (List.cons_ne_self label name)
          fun other less contains => less.ne (moment_unique contains (List.suffix_refl _))
        simp [happenings, lastWrite?_eq inside (label :: name), elsewhere]
      rcases List.mem_append.mp further with below | later
      · obtain ⟨_, _, contains⟩ := place_of_frames inside below
        have through := (List.suffix_cons _ _).trans contains
        have elsewhere := writes_elsewhere rest (ne_of_cons_suffix through)
          fun other less outside => less.ne (moment_unique outside through)
        simp [happenings, within below, elsewhere]
      · obtain ⟨other, less, contains⟩ := place_of_frames rest later
        have apart : ¬label :: name <:+ frame.1 := fun through =>
          less.ne (moment_unique contains through)
        have different : frame.1 ≠ label :: name := fun same => apart (same ▸ List.suffix_refl _)
        have elsewhere := writes_elsewhere inside different fun _ _ deeper =>
          apart ((List.suffix_cons _ _).trans deeper)
        simp [happenings, after later, elsewhere]

end Story

/-- The frames of a message by their names, each with what happens inside it. -/
def Transaction.frames (host : Host) (machine : Machine) : List (FrameName × Story) :=
  match story host machine with
  | .child _ _ inside _ _ => ([], inside) :: inside.frames []
  | _ => []

/-- What the tracer hears of a message that gets its report. -/
structure Transaction.HearsFrames (host : Host) (machine final : Machine) : Prop where
  /-- The message is told as one frame, which is at depth zero and has been left. -/
  outermost : ∃ inside outcome,
    story host machine = .child 0 machine.frame.invocation inside (some outcome) .nothing ∧
    machine.frame.invocation.depth = 0 ∧
    history host machine = inside.happenings [] ++ [⟨[], .left outcome.isSuccess⟩]
  /-- Every frame of the story reports its entry, what happens inside, its own last write and its
  exit. -/
  told : final.reports.reverse = machine.reports.reverse ++
    (story host machine).reports host.config.trackStateChanges
  /-- The last write that a frame reports is the last one that it has done itself. -/
  ownWrites : ∀ frame ∈ frames host machine,
    frame.2.lastWrite? = (frame.1.writes (history host machine)).getLast?
  nested : host.Lenient → (story host machine).Settled ∧
    Bracketed 0 ((story host machine).reports host.config.trackStateChanges)
  /-- Completed reads and writes are reported one by one, or not at all. -/
  accesses : ((story host machine).reports host.config.trackStateChanges).filter (·.isAccess) =
    if host.config.trackStateChanges then
      (history host machine).filterMap (·.deed.report?)
    else []

/-- The tracer of a message that gets its report hears of every frame in its place: of its entry, of
its accesses if they are tracked, of its own last write and, unless a collaborator has failed the
frame once more, of its exit. -/
theorem tracer_reports_are_nested (host : Host) (traced : host.isTraced = true)
    (discreet : host.Discreet) (machine final : Machine) (report : Report)
    (isReady : Transaction.Ready host machine)
    (done : Transaction.execute host machine = .ok report final) :
    Transaction.HearsFrames host machine final := by
  obtain ⟨inside, outcome, told⟩ := Transaction.told_of_execute traced discreet done
  obtain ⟨depth, unwritten⟩ := isReady.unwritten traced discreet
  have whole := told.story
  constructor
  case outermost => exact ⟨inside, outcome, whole, depth, told.history⟩
  case told =>
    have reports := congrArg (·.reports.reverse) told.tracing
    rw [whole]
    cases written : inside.lastWrite? <;>
      simpa [Machine.tracing, Frame.reporting, Tracing.enter, Tracing.exit, Story.tell,
        Story.reports, Story.ending, unwritten, written] using reports
  case ownWrites =>
    obtain ⟨bound, counted⟩ := told.counted
    have leaves : ∀ name : FrameName, name.writes [⟨[], .left outcome.isSuccess⟩] = [] :=
      fun name => FrameName.writes_left [] (some outcome)
    unfold Transaction.frames
    rw [whole]
    intro frame member
    rw [told.history, FrameName.writes_append, leaves, List.append_nil]
    rcases List.mem_cons.mp member with rfl | below
    · exact Story.lastWrite?_eq counted []
    · exact Story.lastWrite?_of_frames counted below
  case nested =>
    intro lenient
    have settled : (Transaction.story host machine).Settled := by
      rw [whole]
      exact .child (told.settled lenient) .nothing
    refine ⟨settled, Story.bracketed _ settled ?_⟩
    rw [whole, ← depth]
    exact .child told.descends .nothing
  case accesses =>
    -- The deeds do not depend on the name that the story gives to the outermost frame.
    have renamed := (Story.accesses true [0] inside).symm.trans (Story.accesses true [] inside)
    rw [Story.accesses _ [], whole, told.history]
    cases host.config.trackStateChanges with
    | false => rfl
    | true => simpa [Story.happenings, Deed.report?] using renamed

/-- A collaborator that follows rules keeps its notes to itself. -/
theorem Host.discreet_of_rules {host : Host} {rules : List OutcomeRule}
    (acts : host.overrides.outcome = some (OutcomeRule.hook rules)) : host.Discreet := by
  intro hook same machine outcome event member
  rw [acts] at same
  cases same
  rcases List.mem_cons.mp member with note | ruled
  · cases note
    rfl
  · obtain ⟨rule, _, asked⟩ := List.mem_flatMap.mp ruled
    simp [OutcomeRule.actions] at asked

/-- Two contracts: one writes a slot and lends itself to the other, which writes another slot and
reverts. -/
def borrowedWorld : World :=
  (World.empty.setCode (.ofNat 1000)
      ⟨#[0x60, 1, 0x5f, 0x55, 0x5f, 0x5f, 0x5f, 0x5f, 0x61, 0x07, 0xd0, 0x61, 0xff, 0xff, 0xf4,
        0]⟩).setCode (.ofNat 2000) ⟨#[0x60, 2, 0x60, 1, 0x55, 0x5f, 0x5f, 0xfd]⟩

/-- A traced call of the first contract, with a collaborator that follows rules. -/
def observedHost (rules : List OutcomeRule) : Host :=
  { Host.standard .blank ⟨.zero, .account (.ofNat 1000), .zero, ByteArray.empty, 200000, []⟩
      { Config.standard with trackStateChanges := true } with
    overrides := { Overrides.none with outcome := some (OutcomeRule.hook rules) }
    isTraced := true }

/-- What the tracer has heard, earliest first: whether each event is an entry, and an exit. -/
def heard? (rules : List OutcomeRule) : Option (List (Bool × Bool)) :=
  Transaction.shown? (observedHost rules) borrowedWorld fun _ final =>
    final.reports.reverse.map fun event => (event.isEntry, event.isExit)

/-- The rule that a frame right below the outermost one runs out of gas after it has failed. -/
def relentlessRule : OutcomeRule :=
  ⟨false, some 1, none, none, none, none, some (.halt .outOfGas)⟩

/-- A collaborator that fails a failed frame hides its exit, and the message goes on. -/
theorem unsettled_frames_break_nesting :
    ¬ ∀ (host : Host) (world : World) (cache : Cache) (machine final : Machine) (report : Report),
      host.isTraced = true → host.Discreet →
      Transaction.boot host world cache = .ok machine →
      Transaction.execute host machine = .ok report final →
      Bracketed 0 final.reports.reverse := by
  intro nested
  have shown : heard? [relentlessRule] = some [(true, false), (false, false), (true, false),
      (false, false), (false, false), (false, true)] := by decide +kernel
  obtain ⟨machine, report, final, booted, done, events⟩ := Transaction.shown?_eq_some shown
  have balanced := (nested _ _ _ _ _ _ rfl (Host.discreet_of_rules rfl) booted done).balanced
  have entries := congrArg (·.countP (·.1)) events
  have exits := congrArg (·.countP (·.2)) events
  simp only [List.countP_map] at entries exits
  have many : final.reports.reverse.countP (·.isEntry) = 2 := entries
  have few : final.reports.reverse.countP (·.isExit) = 1 := exits
  omega

/-- Without rules the reports of both contracts are in their places. -/
theorem borrower_is_heard :
    ∃ machine report final,
      Transaction.boot (observedHost []) borrowedWorld default = .ok machine ∧
      Transaction.execute (observedHost []) machine = .ok report final ∧
      Transaction.HearsFrames (observedHost []) machine final ∧ (observedHost []).Lenient ∧
      final.reports.reverse.map (fun event => (event.isEntry, event.isExit)) =
        [(true, false), (false, false), (true, false), (false, false), (false, false),
          (false, true), (false, false), (false, true)] := by
  have shown : heard? [] = some [(true, false), (false, false), (true, false), (false, false),
      (false, false), (false, true), (false, false), (false, true)] := by decide +kernel
  obtain ⟨machine, report, final, booted, done, events⟩ := Transaction.shown?_eq_some shown
  have lenient : (observedHost []).Lenient := by
    intro hook same machine outcome cause _ member
    cases same
    simp [OutcomeRule.hook] at member
  exact ⟨machine, report, final, booted, done,
    tracer_reports_are_nested (observedHost []) rfl (Host.discreet_of_rules rfl) machine final
      report (.booted booted) done, lenient, events⟩

end CancunMachine
