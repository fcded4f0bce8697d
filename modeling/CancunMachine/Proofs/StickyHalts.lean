import Mathlib.Tactic
import CancunMachine.Proofs.Chronicle
import CancunMachine.Proofs.GasAccounting
import CancunMachine.Proofs.QueuedHalts
import CancunMachine.Proofs.Rollback

/-!
# Sticky halts

A parent swallows the failure of a child and goes on, unless the child has halted with a sticky
halt: then the parent ends with the same halt at once, and so does every frame up to the outermost
one.
-/

namespace CancunMachine

open Ending

/-- Where a frame ends with a sticky halt, the end of its parent with this halt is told next. -/
def Tiding.PassesOn (tiding next : Tiding) : Prop :=
  ∀ halt, tiding.occurrence = .ended (.failure (.halt halt)) → halt.isSticky = true →
    ∃ budget, tiding.frame = budget :: next.frame ∧ next.occurrence = tiding.occurrence

/-- The ends of all ancestors of a frame with a halt, innermost first. -/
def FrameName.endsAbove (name : FrameName) (halt : Halt) : List Tiding :=
  name.tails.tail.map fun ancestor => ⟨ancestor, .ended (.failure (.halt halt))⟩

theorem FrameName.endsAbove_cons (budget : Nat) (name : FrameName) (halt : Halt) :
    endsAbove (budget :: name) halt =
      ⟨name, .ended (.failure (.halt halt))⟩ :: endsAbove name halt := by
  cases name <;> rfl

/-- A sticky halt that every frame passes on to its parent reaches the outermost frame, and nothing
else happens on its way. -/
theorem endsAbove_of_chain {name : FrameName} {halt : Halt} {future : List Tiding}
    (sticky : halt.isSticky = true)
    (chain : List.IsChain Tiding.PassesOn (⟨name, .ended (.failure (.halt halt))⟩ :: future))
    (last : ∀ tiding ∈ (⟨name, .ended (.failure (.halt halt))⟩ :: future).getLast?,
      tiding.frame = []) :
    future = name.endsAbove halt := by
  induction future generalizing name with
  | nil =>
      have outermost : name = [] := last _ rfl
      rw [outermost]
      rfl
  | cons tiding future inductionHypothesis =>
      obtain ⟨passes, later⟩ := List.isChain_cons_cons.mp chain
      obtain ⟨budget, parent, same⟩ := passes halt rfl sticky
      obtain ⟨above, occurrence⟩ := tiding
      dsimp only at parent same
      subst parent same
      rw [FrameName.endsAbove_cons, ← inductionHypothesis later last]

namespace Interpreter

variable {host : Host} {budget : Nat} {name : FrameName} {machine ended closed : Machine}
  {outcome : Outcome}

/-- The chronicle of a frame is that of its instructions and its end. -/
theorem frameChronicle_chain (plain : host.Plain) {below : Machine → List Tiding}
    {body : Run Outcome} {transfer : Transfer}
    (ran : runFrame host body transfer machine = .ok outcome closed)
    (runs : ∀ started, startFrame host transfer (machine.opened host) = .ok none started →
      ∀ ended, body started = .ok outcome ended →
      List.IsChain Tiding.PassesOn (below started ++ [⟨name, .ended outcome.verdict⟩])) :
    List.IsChain Tiding.PassesOn (frameChronicle host name below body transfer machine) := by
  have told := ran
  rw [runFrame_of_plain plain] at ran
  obtain ⟨concluded, ended, concludes, rest⟩ := bind_eq_ok.mp ran
  obtain ⟨_, _, _, returned⟩ := bind_eq_ok.mp rest
  cases returned
  unfold frameChronicle bodyChronicle
  rw [told]
  dsimp only
  split
  · rename_i started starts
    rw [concluding_of_ok starts] at concludes
    exact runs started starts ended concludes
  · exact List.isChain_singleton _

theorem queuedByFrame_of_plain (plain : host.Plain) (body : Run Outcome) (transfer : Transfer)
    (machine : Machine) : queuedByFrame host body transfer machine = [] := by
  unfold queuedByFrame queuedBy
  rw [plain.outcome]
  split <;> rfl

/-- The child that an instruction starts comes to an outcome unless the message is aborted. -/
theorem child_returns (plain : host.Plain) (cancun : host.schedule = .cancun) {ready : Machine}
    {entry : Entry} (prepares : Instruction.preparation host machine.nextOpcode machine.fetched =
      .ok (some entry) ready)
    (ran : run host (budget + 1) machine = .ok outcome ended) :
    ∃ shown closed, runFrame host (run host budget) entry.transfer
      (ready.entering entry.child) = .ok shown closed := by
  have enters := enters_runFrame plain (concludes_run plain budget)
  cases entered : runFrame host (run host budget) entry.transfer (ready.entering entry.child) with
  | ok shown closed => exact ⟨shown, closed, rfl⟩
  | error cause closed =>
      obtain ⟨finish, _, executes⟩ := Instruction.execute_of_child cancun prepares
      have waits : closed.suspended = queueing [] (ready.frame :: ready.suspended) := by
        rw [queueing_nil]
        exact enters.stays entered
      have failed : Instruction.runChild host (runFrame host (run host budget)) entry.child
          entry.transfer ready = _ := Instruction.runChild_of_failure entered waits
      have aborted := failFrame_of_fatal (enters.fatal entered)
        (closed.resumed host (ready.frame.queueing []) ready.suspended)
      rw [run_succ, executes, bind_of_error failed] at ran
      cases aborted.symm.trans ran

/-- A child that ends with a sticky halt takes its parent with it. -/
theorem raised_of_sticky (plain : host.Plain) (cancun : host.schedule = .cancun)
    {ready : Machine} {entry : Entry} {halt : Halt} (unqueued : machine.Unqueued)
    (prepares : Instruction.preparation host machine.nextOpcode machine.fetched =
      .ok (some entry) ready)
    (ran : runFrame host (run host budget) entry.transfer (ready.entering entry.child) =
      .ok outcome closed)
    (halted : outcome.verdict = .failure (.halt halt)) (sticky : halt.isSticky = true) :
    ∃ next, Instruction.execute host (runFrame host (run host budget)) machine.nextOpcode
      machine.fetched = .error (.halt halt) next := by
  have reaches := reaches_of_runFrame cancun unqueued prepares ran
  rw [queuedByFrame_of_plain plain] at reaches
  exact reaches.raisesSticky halt halted rfl sticky

/-- In the chronicle of a frame that comes to an outcome, sticky halts are passed on. -/
theorem chronicle_chain (plain : host.Plain) (cancun : host.schedule = .cancun)
    (unqueued : machine.Unqueued) (ran : run host budget machine = .ok outcome ended) :
    List.IsChain Tiding.PassesOn
      (chronicle host budget name machine ++ [⟨name, .ended outcome.verdict⟩]) := by
  induction budget generalizing name machine outcome ended with
  | zero => cases ran
  | succ budget inductionHypothesis =>
      have later : List.IsChain Tiding.PassesOn (laterChronicle (chronicle host budget name)
          (Instruction.execute host (runFrame host (run host budget)) machine.nextOpcode
            machine.fetched) ++ [⟨name, .ended outcome.verdict⟩]) := by
        unfold laterChronicle
        split
        · rename_i next done
          rw [run_succ, done] at ran
          exact inductionHypothesis (unqueued.executed cancun done) ran
        · exact List.isChain_singleton _
      rw [chronicle, List.cons_append, List.append_assoc, List.isChain_cons]
      refine ⟨fun _ _ _ impossible => Occurrence.noConfusion impossible, ?_⟩
      unfold childChronicle
      split
      · rename_i entry ready prepares
        obtain ⟨shown, closed, entered⟩ := child_returns plain cancun prepares ran
        refine List.isChain_append.mpr ⟨?_, later, ?_⟩
        · refine frameChronicle_chain plain entered fun started starts ended done => ?_
          exact inductionHypothesis ((unqueued.fetched.prepared prepares).entered prepares starts)
            done
        · intro tiding isLast next isNext halt halted sticky
          obtain rfl : tiding = ⟨budget :: name, .ended shown.verdict⟩ := by
            unfold frameChronicle at isLast
            rw [entered, List.getLast?_append] at isLast
            exact (Option.some.inj isLast).symm
          have ends : shown.verdict = .failure (.halt halt) := Occurrence.ended.inj halted
          obtain ⟨after, raised⟩ := raised_of_sticky plain cancun unqueued prepares entered ends
            sticky
          rw [run_succ, raised] at ran
          have verdict : outcome.verdict = .failure (.halt halt) := verdict_of_failFrame ran
          obtain rfl : next = ⟨name, .ended outcome.verdict⟩ := by
            rw [raised] at isNext
            exact (Option.some.inj isNext).symm
          exact ⟨budget, rfl, congrArg Occurrence.ended (verdict.trans ends.symm)⟩
      · rw [List.nil_append]
        exact later

end Interpreter

variable {host : Host} {world : World} {machine final : Machine} {report : Report}

namespace Transaction

/-- A message whose outermost frame halts costs all of its gas, whatever has been refunded. -/
theorem gasUsed_of_halt (plain : host.Plain) (cancun : host.schedule = .cancun)
    (hooks : host.hooks = [.settlement]) (booted : Booted host world machine) {halt : Halt}
    (done : execute host machine = .ok report final)
    (halted : report.verdict = .failure (.halt halt)) : report.gasUsed = host.message.gasLimit := by
  obtain ⟨ready, ended, outcome, settles⟩ := execute_eq_ok hooks done
  have prepares := settles.prepares
  rw [← prepareAll_of_hooks hooks] at prepares
  have balances := booted.balances plain cancun prepares settles.runs
  have enters := Interpreter.enters_runFrame plain (Interpreter.concludes_runInstructions plain)
  have left : outcome.gasRemaining = 0 :=
    ((enters.runs settles.runs).forfeits (settles.verdict.symm.trans halted)).1
  have used : outcome.gasUsed.toNat = host.message.gasLimit.toNat := by
    rw [← balances, left]
    rfl
  have fails : outcome.isSuccess = false := by
    rw [Outcome.isSuccess, ← settles.verdict, halted]
  have refunded := gasRefunded_of_failure plain booted settles fails
  have settled := settles.gas.2
  rw [refunded] at settled
  exact UInt64.toNat_inj.mp (settled.trans used)

/-- In the chronicle of a message that gets its report, sticky halts are passed on, up to the end of
the outermost frame. -/
theorem chronicle_chain (plain : host.Plain) (cancun : host.schedule = .cancun)
    (hooks : host.hooks = [.settlement]) (booted : Booted host world machine)
    (done : execute host machine = .ok report final) :
    List.IsChain Tiding.PassesOn (chronicle host machine) ∧
      (chronicle host machine).getLast? = some ⟨[], .ended report.verdict⟩ := by
  obtain ⟨ready, ended, outcome, settles⟩ := execute_eq_ok hooks done
  have prepares := settles.prepares
  rw [← prepareAll_of_hooks hooks] at prepares
  have ran : Interpreter.runFrame host (Interpreter.runInstructions host) (payment host ready)
    ready = .ok outcome ended := settles.runs
  rw [chronicle_of_prepareAll prepares]
  constructor
  case left =>
    refine Interpreter.frameChronicle_chain plain ran fun started starts concluded runs => ?_
    rw [Interpreter.runInstructions_apply] at runs
    exact Interpreter.chronicle_chain plain cancun ((booted.unqueued prepares).started starts) runs
  case right =>
    unfold Interpreter.frameChronicle
    rw [ran, List.getLast?_append, settles.verdict]
    rfl

/-- Nothing but the ends of its ancestors follows the end of a frame with a sticky halt. -/
theorem endsAbove_of_chronicle (plain : host.Plain) (cancun : host.schedule = .cancun)
    (hooks : host.hooks = [.settlement]) (booted : Booted host world machine)
    (done : execute host machine = .ok report final) {past future : List Tiding}
    {name : FrameName} {halt : Halt} (sticky : halt.isSticky = true)
    (split : chronicle host machine = past ++ ⟨name, .ended (.failure (.halt halt))⟩ :: future) :
    future = name.endsAbove halt ∧ report.verdict = .failure (.halt halt) := by
  obtain ⟨chain, last⟩ := chronicle_chain plain cancun hooks booted done
  rw [split] at chain last
  rw [List.getLast?_append_of_ne_nil _ (List.cons_ne_nil _ _)] at last
  have above : future = name.endsAbove halt := by
    refine endsAbove_of_chain sticky (List.isChain_append.mp chain).2.1 ?_
    intro tiding isLast
    rw [Option.mem_def.mp isLast] at last
    exact congrArg Tiding.frame (Option.some.inj last)
  refine ⟨above, ?_⟩
  have member := List.mem_of_getLast? last
  rw [above] at member
  rcases List.mem_cons.mp member with same | higher
  · exact Occurrence.ended.inj (congrArg Tiding.occurrence same)
  · obtain ⟨ancestor, _, same⟩ := List.mem_map.mp higher
    exact (Occurrence.ended.inj (congrArg Tiding.occurrence same)).symm

end Transaction

/-- What becomes of the failure of a frame. -/
structure StickyHaltsReachTop (host : Host) (machine : Machine) : Prop where
  named : ∀ halt : Halt, halt.isSticky = true ↔
    halt = .invalidContractId ∨ halt = .insufficientChildRecords
  fetches : ∀ visited, Transaction.Visits host machine visited →
    ∃ name budget, ⟨name, .fetched budget visited⟩ ∈ Transaction.chronicle host machine
  ends : ∀ name budget visited entry ready outcome closed,
    ⟨name, .fetched budget visited⟩ ∈ Transaction.chronicle host machine →
    Instruction.preparation host visited.nextOpcode visited.fetched = .ok (some entry) ready →
    Interpreter.runFrame host (Interpreter.run host budget) entry.transfer
      (ready.entering entry.child) = .ok outcome closed →
    ⟨budget :: name, .ended outcome.verdict⟩ ∈ Transaction.chronicle host machine
  /-- Once a frame has ended with a sticky halt, all that happens is that its ancestors end with
  it. -/
  sticky : ∀ report final past name halt future,
    Transaction.execute host machine = .ok report final → halt.isSticky = true →
    Transaction.chronicle host machine =
      past ++ ⟨name, .ended (.failure (.halt halt))⟩ :: future →
    future = name.endsAbove halt ∧ report.verdict = .failure (.halt halt) ∧
      report.gasUsed = host.message.gasLimit
  swallowed : ∀ visited budget entry ready outcome closed cause,
    Transaction.Visits host machine visited →
    Instruction.preparation host visited.nextOpcode visited.fetched = .ok (some entry) ready →
    Interpreter.runFrame host (Interpreter.run host budget) entry.transfer
      (ready.entering entry.child) = .ok outcome closed →
    outcome.verdict = .failure cause → (∀ halt, cause = .halt halt → halt.isSticky = false) →
    ∃ next, Instruction.execute host (Interpreter.runFrame host (Interpreter.run host budget))
        visited.nextOpcode visited.fetched = .ok .proceed next ∧
      ready.frame.stack.push .zero = .ok next.frame.stack

theorem Opcode.answer_of_failure {opcode : Opcode} {entry : Entry} {outcome : Outcome}
    {cause : Failure} (failed : outcome.verdict = .failure cause) :
    opcode.answer entry outcome = .zero := by
  have fails : outcome.isSuccess = false := by rw [Outcome.isSuccess, failed]
  rw [answer, fails]
  split <;> rfl

/-- A sticky halt of any frame ends all its ancestors and the message at once and costs all gas,
while any other failure of a child is swallowed by its parent. -/
theorem sticky_halts_reach_the_top (host : Host) (plain : host.Plain)
    (cancun : host.schedule = .cancun) (hooks : host.hooks = [.settlement]) (world : World)
    (cache : Cache) (machine : Machine)
    (booted : Transaction.boot host world cache = .ok machine) :
    StickyHaltsReachTop host machine := by
  have fresh := Transaction.boot_eq_ok booted
  constructor
  case named => exact fun _ => Halt.isSticky_iff
  case fetches => exact fun _ visits => Transaction.mem_chronicle_of_visits visits
  case ends =>
    intro name budget visited entry ready outcome closed member prepares ran
    exact Transaction.ended_mem_chronicle member prepares ran
  case sticky =>
    intro report final past name halt future done sticky split
    obtain ⟨above, verdict⟩ :=
      Transaction.endsAbove_of_chronicle plain cancun hooks fresh done sticky split
    exact ⟨above, verdict, Transaction.gasUsed_of_halt plain cancun hooks fresh done verdict⟩
  case swallowed =>
    intro visited budget entry ready outcome closed cause visits prepares ran failed ordinary
    have reaches := Interpreter.reaches_of_runFrame cancun (visits.allUnqueued cancun booted)
      prepares ran
    rw [Interpreter.queuedByFrame_of_plain plain] at reaches
    obtain ⟨next, goesOn, _, pushes⟩ := reaches.goesOn fun own halted =>
      ⟨rfl, ordinary own (Verdict.failure.inj (failed.symm.trans halted))⟩
    rw [Opcode.answer_of_failure failed] at pushes
    exact ⟨next, goesOn, pushes⟩

/-- The frame and the verdict, if the end of a frame is told. -/
def Tiding.ended? (tiding : Tiding) : Option (FrameName × Verdict) :=
  match tiding.occurrence with
  | .fetched _ _ => none
  | .ended verdict => some (tiding.frame, verdict)

theorem Tiding.ended?_eq_some {tiding : Tiding} {name : FrameName} {verdict : Verdict}
    (ended : tiding.ended? = some (name, verdict)) : tiding = ⟨name, .ended verdict⟩ := by
  obtain ⟨frame, occurrence⟩ := tiding
  cases occurrence <;> cases ended
  rfl

/-- A contract that calls one that reverts, and then creates one whose initcode calls the first
precompiled contract. -/
def fragileWorld : World :=
  (World.empty.setCode (.ofNat 1000)
    ⟨#[0x5f, 0x5f, 0x5f, 0x5f, 0x5f, 0x61, 0x07, 0xd0, 0x61, 0xff, 0xff, 0xf1,
      0x6a, 0x5f, 0x5f, 0x5f, 0x5f, 0x5f, 0x60, 0x01, 0x61, 0xff, 0xff, 0xf1, 0x5f, 0x52,
      0x60, 0x0b, 0x60, 0x15, 0x5f, 0xf0, 0x00]⟩).setCode (.ofNat 2000) ⟨#[0x5f, 0x5f, 0xfd]⟩

/-- A host whose precompiled contracts do not know any contract. -/
def fragileHost : Host :=
  let host := Host.standard .blank
    ⟨.zero, .account (.ofNat 1000), .zero, ByteArray.empty, 200000, []⟩ .standard
  { host with overrides := { host.overrides with
      precompiles := fun _ _ _ => some (.error (.halt .invalidContractId)) } }

theorem unknown_contract_ends_the_message :
    ∃ machine report final past future,
      Transaction.boot fragileHost fragileWorld default = .ok machine ∧
      Transaction.execute fragileHost machine = .ok report final ∧
      (⟨[1099512027768], .ended (.failure .revert)⟩ : Tiding) ∈
        Transaction.chronicle fragileHost machine ∧
      Transaction.chronicle fragileHost machine = past ++
        ⟨[1099512027753, 1099512027761], .ended (.failure (.halt .invalidContractId))⟩ :: future ∧
      future = [⟨[1099512027761], .ended (.failure (.halt .invalidContractId))⟩,
        ⟨[], .ended (.failure (.halt .invalidContractId))⟩] ∧
      report.verdict = .failure (.halt .invalidContractId) ∧ report.gasUsed = 200000 := by
  -- one evaluation for both, which share what they evaluate
  obtain ⟨told, shown⟩ :
      (Transaction.boot fragileHost fragileWorld default).map (fun machine =>
          (Transaction.chronicle fragileHost machine).filterMap Tiding.ended?) = .ok
            [([1099512027768], .failure .revert),
              ([1099512027753, 1099512027761], .failure (.halt .invalidContractId)),
              ([1099512027761], .failure (.halt .invalidContractId)),
              ([], .failure (.halt .invalidContractId))] ∧
        Transaction.verdict? fragileHost fragileWorld =
          some (.failure (.halt .invalidContractId)) := by
    decide +kernel
  obtain ⟨machine, report, final, booted, done, _⟩ := Transaction.verdict?_eq_some shown
  rw [booted] at told
  have ends : (Transaction.chronicle fragileHost machine).filterMap Tiding.ended? = _ :=
    Except.ok.inj told
  have mentions : ∀ name verdict, (name, verdict) ∈
      (Transaction.chronicle fragileHost machine).filterMap Tiding.ended? →
      (⟨name, .ended verdict⟩ : Tiding) ∈ Transaction.chronicle fragileHost machine := by
    intro name verdict member
    obtain ⟨tiding, told, ended⟩ := List.mem_filterMap.mp member
    rw [← Tiding.ended?_eq_some ended]
    exact told
  rw [ends] at mentions
  obtain ⟨past, future, split⟩ := List.append_of_mem
    (mentions [1099512027753, 1099512027761] (.failure (.halt .invalidContractId)) (by decide))
  have reaches := sticky_halts_reach_the_top fragileHost ⟨rfl, rfl⟩ rfl rfl fragileWorld default
    machine booted
  obtain ⟨above, verdict, gasUsed⟩ := reaches.sticky report final past _ _ future done rfl split
  exact ⟨machine, report, final, past, future, booted, done,
    mentions [1099512027768] (.failure .revert) (by decide), split, above, verdict, gasUsed⟩

end CancunMachine
