import Mathlib.Tactic
import CancunMachine.Proofs.History.Record

/-!
# Histories tell the truth

At every point of a run the machine shows the holdings that are recalled from what survives of its
history so far, so what is read there is what the latest surviving write has left. A child that
fails is forgotten as a whole, and its name is never used again.
-/

namespace CancunMachine

open Ending

/-- What is read is what is recalled, `past` being what has happened before. -/
def Truthful (initial : Holdings) : List Happening → List Happening → Prop
  | _, [] => True
  | past, happening :: rest =>
      (initial.recalled past).Confirms happening.deed ∧ Truthful initial (past ++ [happening]) rest

theorem truthful_append {initial : Holdings} {past first second : List Happening} :
    Truthful initial past (first ++ second) ↔
      Truthful initial past first ∧ Truthful initial (past ++ first) second := by
  induction first generalizing past with
  | nil => simp [Truthful]
  | cons happening first inductionHypothesis =>
      simp only [List.cons_append, Truthful, inductionHypothesis, List.append_assoc,
        List.nil_append, and_assoc]

/-- What is read at some point is what survives of what has happened before. -/
theorem Truthful.confirms {initial : Holdings} {past future : List Happening}
    {happening : Happening} (truthful : Truthful initial [] (past ++ happening :: future)) :
    (initial.recalled past).Confirms happening.deed :=
  (truthful_append.mp truthful).2.1

/-- Whether something happens in a frame, or below it in the child that is entered while `moment`
is left. -/
def Happening.At (name : FrameName) (moment : Nat) (happening : Happening) : Prop :=
  (happening.frame = name ∧ happening.deed.isExit = false) ∨ moment :: name <:+ happening.frame

theorem Happening.At.inside {name : FrameName} {moment : Nat} {happening : Happening}
    (happens : happening.At name moment) : name <:+ happening.frame := by
  rcases happens with ⟨same, _⟩ | below
  · exact same ▸ List.suffix_refl _
  · exact (List.suffix_cons _ _).trans below

/-- A frame may go on, and the names of its next children have not been used. -/
structure Current (past : List Happening) (name : FrameName) (budget : Nat) : Prop where
  alive : ∀ exit ∈ past, exit.deed.isFailure = true → ¬exit.frame <:+ name
  unused : ∀ happening ∈ past, ∀ moment < budget, ¬moment :: name <:+ happening.frame

theorem Deed.isExit_of_isFailure {deed : Deed} (fails : deed.isFailure = true) :
    deed.isExit = true := by
  cases deed <;> first | rfl | cases fails

theorem Deed.isFailure_of_goesOn {deed : Deed} (goesOn : deed.isExit = false) :
    deed.isFailure = false := by
  cases deed <;> first | rfl | cases goesOn

theorem not_cons_suffix_self (moment : Nat) (name : FrameName) : ¬moment :: name <:+ name := by
  intro contains
  have shorter := contains.length_le
  simp at shorter

/-- What happens in a frame before its end does not end it. -/
theorem Happening.At.goesOn {name : FrameName} {moment : Nat} {exit : Happening}
    (happens : exit.At name moment) (fails : exit.deed.isFailure = true) :
    ¬exit.frame <:+ name := by
  intro contains
  rcases happens with ⟨_, goesOn⟩ | below
  · rw [Deed.isExit_of_isFailure fails] at goesOn
    cases goesOn
  · exact not_cons_suffix_self moment name (below.trans contains)

/-- Different children of a frame have nothing in common. -/
theorem moment_unique {first second : Nat} {name place : FrameName}
    (inFirst : first :: name <:+ place) (inSecond : second :: name <:+ place) : first = second := by
  have nested := List.suffix_of_suffix_length_le inFirst inSecond (by simp)
  have same := nested.eq_of_length (by simp)
  exact (List.cons.inj same).1

namespace Current

variable {past told : List Happening} {name : FrameName} {budget : Nat}

theorem begin (budget : Nat) : Current [] [] budget where
  alive := by simp
  unused := by simp

theorem survives (current : Current past name budget) (deed : Deed) :
    Survives past ⟨name, deed⟩ := current.alive

/-- Nothing has happened yet in the next child. -/
theorem fresh (current : Current past name (budget + 1)) :
    ∀ happening ∈ past, ¬budget :: name <:+ happening.frame :=
  fun happening member => current.unused happening member budget (Nat.lt_succ_self budget)

theorem child (current : Current past name (budget + 1)) :
    Current past (budget :: name) budget where
  alive := by
    intro exit member fails contains
    rcases List.suffix_cons_iff.mp contains with same | outer
    · exact current.fresh exit member (same ▸ List.suffix_refl _)
    · exact current.alive exit member fails outer
  unused := by
    intro happening member moment _ contains
    exact current.fresh happening member ((List.suffix_cons _ _).trans contains)

/-- A frame may go on after what happens at one of its moments. -/
theorem next (current : Current past name (budget + 1))
    (happens : ∀ happening ∈ told, happening.At name budget) :
    Current (past ++ told) name budget where
  alive := by
    intro exit member fails contains
    rcases List.mem_append.mp member with before | now
    · exact current.alive exit before fails contains
    · exact (happens exit now).goesOn fails contains
  unused := by
    intro happening member moment earlier contains
    rcases List.mem_append.mp member with before | now
    · exact current.unused happening before moment (by omega) contains
    · rcases happens happening now with ⟨same, _⟩ | below
      · rw [same] at contains
        exact not_cons_suffix_self moment name contains
      · have same := moment_unique contains below
        omega

end Current

/-- What the history of a run of instructions fulfils. -/
structure Recounts (initial : Holdings) (past : List Happening) (name : FrameName) (budget : Nat)
    (machine : Machine) (body : Run Outcome) (told : List Happening) : Prop where
  truthful : Truthful initial past told
  within : ∀ happening ∈ told, ∃ moment < budget, happening.At name moment
  /-- A run that succeeds leaves what is recalled. -/
  leaves : ∀ {outcome final}, body machine = .ok outcome final → outcome.isSuccess = true →
    final.holdings = initial.recalled (past ++ told)

namespace Recounts

variable {initial : Holdings} {past told : List Happening} {name : FrameName} {budget : Nat}
  {machine : Machine} {body : Run Outcome}

theorem inside (recounts : Recounts initial past name budget machine body told) :
    ∀ happening ∈ told, name <:+ happening.frame := by
  intro happening member
  obtain ⟨moment, _, happens⟩ := recounts.within happening member
  exact happens.inside

/-- The end of the frame happens in it as well. -/
theorem inside_concat (recounts : Recounts initial past name budget machine body told)
    (deed : Deed) : ∀ happening ∈ told ++ [⟨name, deed⟩], name <:+ happening.frame := by
  intro happening member
  rcases List.mem_append.mp member with early | last
  · exact recounts.inside happening early
  · rw [List.mem_singleton.mp last]

theorem nothing
    (leaves : ∀ {outcome final}, body machine = .ok outcome final → outcome.isSuccess = true →
      final.holdings = initial.recalled past) :
    Recounts initial past name budget machine body [] where
  truthful := trivial
  within := by simp
  leaves := by
    rw [List.append_nil]
    exact leaves

end Recounts

namespace Interpreter

variable {host : Host} {initial : Holdings} {past : List Happening} {name : FrameName}
  {budget : Nat}

theorem recounts_concluding {body : Run Outcome} {below : Machine → List Happening}
    {transfer : Transfer} {opened : Machine}
    (runs : ∀ started, started.holdings = initial.recalled past →
      ∃ budget, Recounts initial past name budget started body (below started))
    (holdings : opened.holdings = initial.recalled past) :
    ∃ budget, Recounts initial past name budget opened (concluding host body transfer)
      (bodyHistory host below transfer opened) := by
  unfold bodyHistory
  cases starts : startFrame host transfer opened with
  | error cause started =>
      refine ⟨0, .nothing fun done succeeds => ?_⟩
      rw [concluding_of_error starts] at done
      rw [failFrame_fails done] at succeeds
      cases succeeds
  | ok answer started =>
      have still : started.holdings = initial.recalled past :=
        ((leaves_startFrame aside_shownHoldings transfer).holdings starts).trans holdings
      cases answer with
      | some shown =>
          refine ⟨0, .nothing fun done _ => ?_⟩
          rw [concluding_of_ok starts] at done
          cases done
          exact still
      | none =>
          obtain ⟨budget, recounts⟩ := runs started still
          refine ⟨budget, recounts.truthful, recounts.within, fun done succeeds => ?_⟩
          rw [concluding_of_ok starts] at done
          exact recounts.leaves done succeeds

/-- What the history of a whole frame fulfils: in it as well, reads tell what is recalled, and
whether it succeeds or fails, what it leaves is recalled again. -/
structure Embraces (host : Host) (initial : Holdings) (past : List Happening) (name : FrameName)
    (body : Run Outcome) (transfer : Transfer) (entered : Machine) (told : List Happening) :
    Prop where
  truthful : Truthful initial past told
  inside : ∀ happening ∈ told, name <:+ happening.frame
  leaves : ∀ {outcome final}, runFrame host body transfer entered = .ok outcome final →
    final.holdings = initial.recalled (past ++ told)

/-- A frame that ends leaves what is recalled with its end: if it fails, all that has happened in
it is forgotten, and otherwise it goes on to be recalled. -/
theorem holdings_of_runFrame (plain : host.Plain) {body : Run Outcome}
    (concludes : Concludes host body) {transfer : Transfer} {entered final : Machine}
    {outcome : Outcome} {told : List Happening}
    (alive : ∀ exit ∈ past, exit.deed.isFailure = true → ¬exit.frame <:+ name)
    (fresh : ∀ happening ∈ past, ¬name <:+ happening.frame)
    (recounts : Recounts initial past name budget (entered.opened host)
      (concluding host body transfer) told)
    (holdings : entered.holdings = initial.recalled past)
    (ran : runFrame host body transfer entered = .ok outcome final) :
    final.holdings = initial.recalled (past ++ (told ++ [⟨name, .left outcome.isSuccess⟩])) := by
  cases succeeds : outcome.isSuccess with
  | false =>
      have runs := (enters_runFrame plain concludes).runs ran
      have same : final.holdings = entered.holdings := runs.shown aside_shownHoldings succeeds
      rw [same, holdings]
      exact (Holdings.recalled_undone (recounts.inside_concat _) fresh (by simp)).symm
  | true =>
      obtain ⟨ended, concluded, shown⟩ := shown_of_success plain aside_shownHoldings ran succeeds
      have same : final.holdings = ended.holdings := shown
      have survives : Survives (past ++ told) ⟨name, .left true⟩ := by
        refine survives_append.mpr ⟨alive, ?_⟩
        intro exit member fails
        obtain ⟨moment, _, happens⟩ := recounts.within exit member
        exact happens.goesOn fails
      rw [same, recounts.leaves concluded succeeds, ← List.append_assoc,
        Holdings.recalled_concat rfl survives]
      rfl

theorem embraces_frame (plain : host.Plain) {body : Run Outcome} (concludes : Concludes host body)
    {below : Machine → List Happening} {transfer : Transfer} {entered : Machine}
    (alive : ∀ exit ∈ past, exit.deed.isFailure = true → ¬exit.frame <:+ name)
    (fresh : ∀ happening ∈ past, ¬name <:+ happening.frame)
    (runs : ∀ started, started.holdings = initial.recalled past →
      ∃ budget, Recounts initial past name budget started body (below started))
    (holdings : entered.holdings = initial.recalled past) :
    Embraces host initial past name body transfer entered
      (frameHistory host name below body transfer entered) := by
  obtain ⟨budget, recounts⟩ :=
    recounts_concluding runs ((entered.shown_opened aside_shownHoldings).trans holdings)
  unfold frameHistory
  generalize bodyHistory host below transfer (entered.opened host) = told at recounts
  cases ran : runFrame host body transfer entered with
  | error cause final =>
      rw [List.append_nil]
      refine ⟨recounts.truthful, recounts.inside, fun done => ?_⟩
      rw [ran] at done
      cases done
  | ok outcome final =>
      simp only
      constructor
      case truthful => exact truthful_append.mpr ⟨recounts.truthful, trivial, trivial⟩
      case inside => exact recounts.inside_concat _
      case leaves =>
        intro shown closed done
        rw [ran] at done
        cases done
        exact holdings_of_runFrame plain concludes alive fresh recounts holdings ran

/-- What the history of one instruction fulfils. -/
structure Steps (initial : Holdings) (past : List Happening) (name : FrameName) (moment : Nat)
    (told : List Happening) (executed : EStateM.Result Failure Machine Signal) : Prop where
  truthful : Truthful initial past told
  happens : ∀ happening ∈ told, happening.At name moment
  leaves : ∀ {signal next}, executed = .ok signal next →
    next.holdings = initial.recalled (past ++ told)

theorem Steps.nothing {moment : Nat} {executed : EStateM.Result Failure Machine Signal}
    (leaves : ∀ {signal next}, executed = .ok signal next →
      next.holdings = initial.recalled past) : Steps initial past name moment [] executed where
  truthful := trivial
  happens := by simp
  leaves := by
    rw [List.append_nil]
    exact leaves

/-- An instruction that starts no child does its own deed, if it has one. -/
theorem steps_of_alone (plain : host.Plain) {enter : Transfer → Run Outcome} {opcode : Opcode}
    {machine : Machine} (alone : opcode.startsChild = false) (current : Current past name budget)
    (holdings : machine.holdings = initial.recalled past) (moment : Nat) :
    Steps initial past name moment
      (ownHistory name opcode machine (Instruction.execute host enter opcode machine))
      (Instruction.execute host enter opcode machine) := by
  cases executed : Instruction.execute host enter opcode machine with
  | error cause next => exact .nothing nofun
  | ok signal next =>
      have accounts := Instruction.accounts_of_execute plain alone executed
      cases does : opcode.deed? machine.frame next.frame with
      | none =>
          have still := accounts.holdings
          rw [does] at still
          simp only [ownHistory, does]
          refine .nothing fun done => ?_
          cases done
          exact still.trans holdings
      | some deed =>
          have altered := accounts.holdings
          have confirms := accounts.confirms deed does
          rw [does, Option.elim_some, holdings] at altered
          rw [holdings] at confirms
          have goesOn : deed.isExit = false := Opcode.isExit_of_deed? does
          simp only [ownHistory, does, Option.map_some, Option.toList_some]
          constructor
          case truthful => exact ⟨confirms, trivial⟩
          case happens =>
            intro happening member
            rw [List.mem_singleton.mp member]
            exact .inl ⟨rfl, goesOn⟩
          case leaves =>
            intro shown final done
            cases done
            rw [altered]
            exact (Holdings.recalled_concat (Deed.isFailure_of_goesOn goesOn)
              (current.survives deed)).symm

/-- An instruction that starts a child does nothing beside what happens in the child. -/
theorem steps_of_startsChild (plain : host.Plain) {opcode : Opcode} {machine : Machine}
    (starts : opcode.startsChild = true) (current : Current past name (budget + 1))
    (holdings : machine.holdings = initial.recalled past)
    (runs : ∀ started, started.holdings = initial.recalled past →
      Recounts initial past (budget :: name) budget started (run host budget)
        (history host budget (budget :: name) started)) :
    Steps initial past name budget
      (childHistory host (budget :: name) (history host budget (budget :: name)) (run host budget)
        (Instruction.preparation host opcode machine))
      (Instruction.execute host (runFrame host (run host budget)) opcode machine) := by
  have concludes := concludes_run plain budget
  have enters := enters_runFrame plain concludes
  have still : ∀ {answer ready}, Instruction.preparation host opcode machine = .ok answer ready →
      ready.holdings = initial.recalled past := fun prepares =>
    ((Instruction.leaves_preparation aside_shownHoldings opcode).holdings prepares).trans holdings
  -- Without a child, nothing happens, and the instruction leaves what its preparation leaves.
  have childless : (∀ entry ready, Instruction.preparation host opcode machine ≠
        .ok (some entry) ready) →
      Steps initial past name budget []
        (Instruction.execute host (runFrame host (run host budget)) opcode machine) := by
    intro none
    refine .nothing fun done => ?_
    rcases Instruction.shown_of_startsChild shownHoldings starts enters done with
      ⟨ready, prepares, same⟩ | ⟨entry, ready, _, _, prepares, _⟩
    · exact same.trans (still prepares)
    · exact absurd prepares (none entry ready)
  cases prepares : Instruction.preparation host opcode machine with
  | error cause ready => exact childless (by simp [prepares])
  | ok answer ready =>
      cases answer with
      | none => exact childless (by simp [prepares])
      | some entry =>
          have entering := still prepares
          have embraces : Embraces host initial past (budget :: name) (run host budget)
              entry.transfer (ready.entering entry.child) _ :=
            embraces_frame plain concludes current.child.alive current.fresh
              (fun started same => ⟨budget, runs started same⟩) entering
          constructor
          case truthful => exact embraces.truthful
          case happens => exact fun happening member => .inr (embraces.inside happening member)
          case leaves =>
            intro signal next done
            rcases Instruction.shown_of_startsChild shownHoldings starts enters done with
              ⟨_, prepared, _⟩ | ⟨_, _, outcome, closed, prepared, entered, same⟩
            · rw [prepares] at prepared
              cases prepared
            · rw [prepares] at prepared
              cases prepared
              exact same.trans (embraces.leaves entered)

/-- One instruction of a run tells what happens in its child and what it does itself. -/
theorem steps_of_execute (plain : host.Plain) {machine : Machine}
    (current : Current past name (budget + 1)) (holdings : machine.holdings = initial.recalled past)
    (runs : ∀ started, started.holdings = initial.recalled past →
      Recounts initial past (budget :: name) budget started (run host budget)
        (history host budget (budget :: name) started)) (opcode : Opcode) :
    Steps initial past name budget
      (childHistory host (budget :: name) (history host budget (budget :: name)) (run host budget)
          (Instruction.preparation host opcode machine) ++
        ownHistory name opcode machine
          (Instruction.execute host (runFrame host (run host budget)) opcode machine))
      (Instruction.execute host (runFrame host (run host budget)) opcode machine) := by
  cases starts : opcode.startsChild with
  | false =>
      rw [Instruction.preparation_of_alone starts]
      exact steps_of_alone plain starts current holdings budget
  | true =>
      have silent : ownHistory name opcode machine
          (Instruction.execute host (runFrame host (run host budget)) opcode machine) = [] := by
        unfold ownHistory
        split
        · rw [Instruction.deed?_of_startsChild starts]
          rfl
        · rfl
      rw [silent, List.append_nil]
      exact steps_of_startsChild plain starts current holdings runs

/-- A run tells what its first instruction has told and then what the rest of it tells. -/
theorem recounts_succ {machine : Machine} {told : List Happening}
    {rest : Machine → List Happening}
    (steps : Steps initial past name budget told (Instruction.execute host
      (runFrame host (run host budget)) machine.nextOpcode machine.fetched))
    (later : ∀ {next}, Instruction.execute host (runFrame host (run host budget))
        machine.nextOpcode machine.fetched = .ok .proceed next →
      Recounts initial (past ++ told) name budget next (run host budget) (rest next)) :
    Recounts initial past name (budget + 1) machine (run host (budget + 1))
      (told ++ laterHistory rest (Instruction.execute host (runFrame host (run host budget))
        machine.nextOpcode machine.fetched)) := by
  have now : ∀ happening ∈ told, ∃ moment < budget + 1, happening.At name moment :=
    fun happening member => ⟨budget, Nat.lt_succ_self budget, steps.happens happening member⟩
  have ran := run_succ host budget machine
  cases executed : Instruction.execute host (runFrame host (run host budget))
      machine.nextOpcode machine.fetched with
  | error cause next =>
      rw [executed] at ran
      simp only [laterHistory, List.append_nil]
      refine ⟨steps.truthful, now, fun done succeeds => ?_⟩
      rw [ran] at done
      rw [failFrame_fails done] at succeeds
      cases succeeds
  | ok signal next =>
      rw [executed] at ran
      cases signal with
      | stop =>
          simp only [laterHistory, List.append_nil]
          refine ⟨steps.truthful, now, fun done succeeds => ?_⟩
          rw [ran] at done
          exact (shown_of_stopFrame aside_shownHoldings done succeeds).trans (steps.leaves executed)
      | proceed =>
          have recounts := later executed
          simp only [laterHistory]
          constructor
          case truthful => exact truthful_append.mpr ⟨steps.truthful, recounts.truthful⟩
          case within =>
            intro happening member
            rcases List.mem_append.mp member with first | last
            · exact now happening first
            · obtain ⟨moment, earlier, happens⟩ := recounts.within happening last
              exact ⟨moment, by omega, happens⟩
          case leaves =>
            intro outcome final done succeeds
            rw [ran] at done
            rw [recounts.leaves done succeeds, List.append_assoc]

/-- At every point of a run the machine shows what is recalled. -/
theorem recounts_run (plain : host.Plain) (budget : Nat) {past : List Happening}
    {name : FrameName} {machine : Machine} (current : Current past name budget)
    (holdings : machine.holdings = initial.recalled past) :
    Recounts initial past name budget machine (run host budget)
      (history host budget name machine) := by
  induction budget generalizing past name machine with
  | zero => exact .nothing nofun
  | succ budget inductionHypothesis =>
      have fetched : machine.fetched.holdings = initial.recalled past := holdings
      have steps := steps_of_execute plain current fetched
        (fun _ same => inductionHypothesis current.child same) machine.nextOpcode
      exact recounts_succ steps fun goesOn =>
        inductionHypothesis (current.next steps.happens) (steps.leaves goesOn)

/-- The outermost frame begins when nothing has happened yet. -/
theorem recounts_runInstructions (plain : host.Plain) {machine : Machine}
    (holdings : machine.holdings = initial.recalled []) :
    ∃ budget, Recounts initial [] [] budget machine (runInstructions host)
      (wholeHistory host machine) := by
  have same : runInstructions host machine = run host (stepBudget machine.frame.gas) machine :=
    runInstructions_apply machine
  unfold wholeHistory
  generalize stepBudget machine.frame.gas = budget at same ⊢
  have recounts := recounts_run plain budget (.begin budget) holdings
  refine ⟨budget, recounts.truthful, recounts.within, fun done succeeds => ?_⟩
  rw [same] at done
  exact recounts.leaves done succeeds

end Interpreter

end CancunMachine
