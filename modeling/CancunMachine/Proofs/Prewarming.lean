import Mathlib.Tactic
import CancunMachine.Proofs.Settlement
import CancunMachine.Proofs.Warmth

/-!
# What a message warms before it runs

The prices ask whether a key is known: it has been warmed, or it is an address that is warm in every
transaction. Preparing a message visits the keys that the message names, in a fixed order and
starting from the addresses of the policy.
-/

namespace CancunMachine

open Ending

namespace Warmth

/-- Whether the prices take a key for warm. -/
def knows (warmth : Warmth) (key : WarmKey) : Bool :=
  match key.slot with
  | none => warmth.isWarmAddress key.address
  | some _ => warmth.isWarm key

/-- Warms a key unless it is warm in every transaction. -/
def visit (warmth : Warmth) (key : WarmKey) : Warmth :=
  match key.slot with
  | none => warmth.touchAddress key.address
  | some slot => warmth.touchSlot key.address slot

theorem Extends.isWarm {warmth next : Warmth} (grown : warmth.Extends next) {key : WarmKey}
    (warm : warmth.isWarm key = true) : next.isWarm key = true := by
  obtain ⟨keys, _, isWarm, _⟩ := grown.warmed
  exact (isWarm key).mpr (.inr warm)

/-- What is known stays known while keys are warmed. -/
theorem Extends.knows {warmth next : Warmth} (grown : warmth.Extends next) {key : WarmKey}
    (known : warmth.knows key = true) : next.knows key = true := by
  rcases key with ⟨address, _ | slot⟩
  · have either : warmth.isAlways address = true ∨ warmth.isWarm ⟨address, none⟩ = true :=
      Bool.or_eq_true_iff.mp known
    refine Bool.or_eq_true_iff.mpr (either.imp (fun always => ?_) grown.isWarm)
    unfold isAlways
    rw [grown.always]
    exact always
  · exact grown.isWarm known

theorem Alike.knows {warmth next : Warmth} (alike : warmth.Alike next) (key : WarmKey) :
    next.knows key = warmth.knows key := by
  rcases key with ⟨address, _ | slot⟩
  · exact alike.isWarmAddress address
  · exact alike.isWarm _

theorem extends_visit (warmth : Warmth) (key : WarmKey) : warmth.Extends (warmth.visit key) := by
  rcases key with ⟨address, _ | slot⟩
  · change warmth.Extends (warmth.touchAddress address)
    rw [touchAddress_eq]
    split
    · exact .refl warmth
    · exact warmth.extends_touch _
  · exact warmth.extends_touch _

theorem knows_visit (warmth : Warmth) (key : WarmKey) : (warmth.visit key).knows key = true := by
  rcases key with ⟨address, _ | slot⟩
  · change (warmth.touchAddress address).isWarmAddress address = true
    rw [touchAddress_eq]
    split
    · rename_i always
      exact Bool.or_eq_true_iff.mpr (.inl always)
    · exact Bool.or_eq_true_iff.mpr (.inr (warmth.isWarm_touch _))
  · exact warmth.isWarm_touch _

/-- Visits keys, the first one first. -/
def visitAll (warmth : Warmth) (keys : List WarmKey) : Warmth := keys.foldl visit warmth

theorem extends_visitAll (warmth : Warmth) (keys : List WarmKey) :
    warmth.Extends (warmth.visitAll keys) := by
  induction keys generalizing warmth with
  | nil => exact .refl warmth
  | cons key keys inductionHypothesis =>
      exact (warmth.extends_visit key).trans (inductionHypothesis _)

end Warmth

namespace Transaction

variable {host : Host}

/-- A computation that visits `keys` and does nothing else. -/
def Visiting (keys : List WarmKey) (action : Run Unit) : Prop :=
  ∀ machine, action machine = .ok () { machine with warmth := machine.warmth.visitAll keys }

theorem visiting_pure : Visiting [] (pure ()) := fun _ => rfl

theorem Visiting.bind {early late : List WarmKey} {first : Run Unit} {next : Unit → Run Unit}
    (firstVisits : Visiting early first) (nextVisits : Visiting late (next ())) :
    Visiting (early ++ late) (first >>= next) := by
  intro machine
  rw [bind_of_ok (firstVisits machine), nextVisits]
  simp only [Warmth.visitAll, List.foldl_append]

theorem visiting_warmAddress (address : Address) :
    Visiting [⟨address, none⟩] (Run.warmAddress address) := fun _ => rfl

theorem visiting_warmSlot (address : Address) (slot : Word) :
    Visiting [⟨address, some slot⟩] (Run.warmSlot address slot) := fun _ => rfl

theorem visiting_forM {Alpha : Type} {each : Alpha → Run Unit} {keys : Alpha → List WarmKey}
    (visits : ∀ item, Visiting (keys item) (each item)) (items : List Alpha) :
    Visiting (items.flatMap keys) (items.forM each) := by
  induction items with
  | nil => exact visiting_pure
  | cons item items inductionHypothesis =>
      rw [List.flatMap_cons]
      exact (visits item).bind inductionHypothesis

/-- The keys of an entry of an access list. -/
def entryKeys (entry : Address × List Word) : List WarmKey :=
  ⟨entry.1, none⟩ :: entry.2.flatMap fun slot => [⟨entry.1, some slot⟩]

/-- The keys that a message names: those of its parties and of its access list. -/
def namedKeys (host : Host) (recipient : Address) : List WarmKey :=
  [⟨host.environment.origin, none⟩, ⟨host.message.caller, none⟩, ⟨recipient, none⟩,
    ⟨host.environment.coinbase, none⟩] ++ host.message.accessList.flatMap entryKeys

theorem visiting_warmEntry (entry : Address × List Word) :
    Visiting (entryKeys entry) (warmEntry entry) :=
  (visiting_warmAddress entry.1).bind (visiting_forM (visiting_warmSlot entry.1) entry.2)

theorem warmMessage_apply (machine : Machine) :
    warmMessage host machine = .ok () { machine with
      warmth := machine.warmth.visitAll (namedKeys host machine.frame.invocation.recipient) } := by
  have list := visiting_forM visiting_warmEntry host.message.accessList
  have parties : Visiting _ (do
      Run.warmAddress machine.frame.invocation.recipient
      Run.warmAddress host.environment.coinbase
      host.message.accessList.forM warmEntry) :=
    (visiting_warmAddress _).bind ((visiting_warmAddress _).bind list)
  unfold warmMessage
  rw [bind_of_ok (visiting_warmAddress host.environment.origin machine),
    bind_of_ok (visiting_warmAddress host.message.caller _), bind_of_ok (Run.frame_apply _ _)]
  exact parties _

/-- A prepared machine knows the addresses of the policy and has visited the named keys. -/
theorem warmth_of_prepareSettlement {machine ready : Machine}
    (done : prepareSettlement host machine = .ok () ready) :
    ready.warmth = (machine.warmth.setAlways host.policy.alwaysWarm).visitAll
      (namedKeys host machine.frame.invocation.recipient) := by
  cases begins : machine.warmth.begin with
  | error error =>
      unfold prepareSettlement at done
      rw [bind_of_ok (get_apply machine)] at done
      simp only [begins] at done
      cases done
  | ok nothing =>
      rw [prepareSettlement_of_begin begins] at done
      obtain ⟨_, valid, validated, rest⟩ := bind_eq_ok.mp done
      obtain ⟨rfl, _⟩ := validate_eq_ok validated
      obtain ⟨nonce, raised, counted, warming⟩ := bind_eq_ok.mp rest
      obtain ⟨world, _, rfl⟩ := Run.onWorld_eq_ok.mp counted
      rw [warmMessage_apply] at warming
      cases warming
      rfl

end Transaction

end CancunMachine
