import Mathlib.Tactic
import CancunMachine.Proofs.World.Seen

/-!
# The journal is a stack of snapshots

The reference is as plain as can be: one map of accounts, and a stack of maps that were saved.
`Change` lists what can be done to a store; `Change.access` does it to a journaled world and
`Change.onSnapshots` to the snapshots. The layers of the journal unwind to the saved maps, so the two
give the same answers and cannot be told apart.
-/

namespace CancunMachine

open Ending

/-- What can be done to a journaled store. -/
inductive Change
  | setSlot (address : Address) (key value : Word)
  | setBalance (address : Address) (balance : Word)
  | setNonce (address : Address) (nonce : UInt64)
  | setCode (address : Address) (code : ByteArray)
  | destroy (address : Address)
  | checkpoint
  | commit
  | revert

/-- A change of a journaled world whose store refuses nothing. -/
def Change.access : Change → Access Unit
  | setSlot address key value => Access.writeSlot .none address key value
  | setBalance address balance => Access.writeBalance .none address balance
  | setNonce address nonce => Access.writeNonce .none address nonce
  | setCode address code => Access.writeCode .none address code
  | destroy address => Access.destroy .none address
  | checkpoint => Access.checkpoint
  | commit => Access.commit
  | revert => Access.revert

/-- What the change of a world answers, nothing or why it failed, and the world it leaves. -/
def Change.onWorld (change : Change) (world : World) : Option StoreError × World :=
  match change.access world with
  | .ok _ next => (none, next)
  | .error error next => (some error, next)

/-- An account nothing was ever done to. -/
def Account.View.fresh : Account.View where
  balance := .zero
  nonce := 0
  codeHash := emptyCodeHash
  code := ByteArray.empty
  slots := fun _ => .zero

theorem Account.view_empty : Account.empty.view = .fresh := rfl

/-- One map of accounts, and the maps that were saved, latest first. -/
structure Snapshots where
  current : World.View
  saved : List World.View

namespace Snapshots

variable (snapshots : Snapshots)

/-- The account at an address, where a missing account is fresh. -/
def account (address : Address) : Account.View := (snapshots.current address).getD .fresh

/-- Changes one account, which comes into being if need be. -/
def update (address : Address) (change : Account.View → Account.View) : Snapshots :=
  { snapshots with
    current := Function.update snapshots.current address
      (some (change (snapshots.account address))) }

def remove (address : Address) : Snapshots :=
  { snapshots with current := Function.update snapshots.current address none }

/-- Saves a copy of the current map. -/
def save : Snapshots := { snapshots with saved := snapshots.current :: snapshots.saved }

/-- Drops the copy that was saved last. -/
def drop : Option StoreError × Snapshots :=
  match snapshots.saved with
  | [] => (some (.noCheckpoint .commit), snapshots)
  | _ :: saved => (none, { snapshots with saved })

/-- Goes back to the copy that was saved last. -/
def restore : Option StoreError × Snapshots :=
  match snapshots.saved with
  | [] => (some (.noCheckpoint .revert), snapshots)
  | current :: saved => (none, { current, saved })

end Snapshots

/-- What the change of the snapshots answers, nothing or why it failed, and what it leaves. -/
def Change.onSnapshots (change : Change) (snapshots : Snapshots) :
    Option StoreError × Snapshots :=
  match change with
  | setSlot address key value => (none, snapshots.update address fun account =>
      { account with slots := Function.update account.slots key value })
  | setBalance address balance => (none, snapshots.update address ({ · with balance }))
  | setNonce address nonce => (none, snapshots.update address ({ · with nonce }))
  | setCode address code =>
      (none, snapshots.update address ({ · with code, codeHash := keccak code }))
  | destroy address => (none, snapshots.remove address)
  | checkpoint => (none, snapshots.save)
  | commit => snapshots.drop
  | revert => snapshots.restore

/-- One change after the other, also after one that failed, with all their answers. -/
def Change.perform {State : Type} (step : Change → State → Option StoreError × State) :
    List Change → State → List (Option StoreError) × State
  | [], state => ([], state)
  | change :: changes, state =>
      let (answer, next) := step change state
      let (answers, final) := perform step changes next
      (answer :: answers, final)

def World.perform (world : World) (changes : List Change) : List (Option StoreError) × World :=
  Change.perform Change.onWorld changes world

namespace Snapshots

def perform (snapshots : Snapshots) (changes : List Change) :
    List (Option StoreError) × Snapshots :=
  Change.perform Change.onSnapshots changes snapshots

/-- The map of the accounts of a world, with nothing saved. -/
def ofWorld (world : World) : Snapshots := ⟨world.view, []⟩

/-- A world and snapshots that cannot be told apart. -/
structure Shows (world : World) (snapshots : Snapshots) : Prop where
  isPresent : ∀ address, (world.account? address).isSome = (snapshots.current address).isSome
  balance : ∀ address, world.balance address = (snapshots.account address).balance
  nonce : ∀ address, world.nonce address = (snapshots.account address).nonce
  codeHash : ∀ address, world.codeHash address = (snapshots.account address).codeHash
  code : ∀ address, world.code address = (snapshots.account address).code
  slot : ∀ address key, world.slot address key = (snapshots.account address).slots key
  depth : world.checkpointDepth = snapshots.saved.length

/-- Playing the layers of the journal back, innermost first, gives the saved maps one by one. -/
def Unwinds : List (List Undo) → World.View → List World.View → Prop
  | [], _, [] => True
  | layer :: outer, view, saved :: rest =>
      layer.foldl World.View.undo view = saved ∧ Unwinds outer saved rest
  | [], _, _ :: _ => False
  | _ :: _, _, [] => False

/-- The invariant: the accounts look like the current map, the layers unwind to the saved maps. -/
structure Mirrors (world : World) (snapshots : Snapshots) : Prop where
  view : world.view = snapshots.current
  unwinds : Unwinds world.layers world.view snapshots.saved

end Snapshots

namespace World

/-- Records were left in the innermost layer with which the change from `world` to `next` can be
taken back; without an open checkpoint there is nothing to take back to. -/
def Records (world next : World) : Prop :=
  ∃ records, next.layers = world.layers.modifyHead (records ++ ·) ∧
    records.foldl View.undo next.view = world.view

theorem view_eq_ite (world : World) (address : Address) :
    world.view address =
      if world.isPresent address = true then some (world.seen address) else none := by
  unfold view isPresent seen
  cases world.account? address <;> rfl

/-- Writing a slot changes that slot in the picture of the accounts. -/
theorem view_writeSlot (world : World) (address : Address) (key value : Word) :
    (world.setSlot address key value).view = Function.update world.view address
      (some { world.seen address with
        slots := Function.update (world.seen address).slots key value }) := by
  obtain ⟨seen, present⟩ := seen_setSlot world address key value
  funext other
  rw [view_eq_ite, seen, present, Function.update_apply, Function.update_apply,
    Function.update_apply, view_eq_ite]
  by_cases same : other = address <;> simp [same]

theorem view_destroy (world : World) (address : Address) :
    (world.destroy address).view = Function.update world.view address none := by
  funext other
  rw [view, account?_destroy, Function.update_apply]
  split <;> rfl

theorem records_destroy (world : World) (address : Address) :
    world.Records (world.destroy address) := by
  unfold destroy
  cases found : world.account? address with
  | none => exact (Follows.refl world).journaled
  | some previous =>
      refine ⟨[.destroyed address previous], layers_record world _, ?_⟩
      have shown : world.view address = some previous.view := by simp [view, found]
      rw [List.foldl_cons, List.foldl_nil, view_erase, view_record]
      simp only [View.undo, Function.update_idem]
      rw [← shown, Function.update_eq_self]

end World

namespace Snapshots

variable {world next : World} {snapshots : Snapshots} {address : Address}

theorem Unwinds.of_records {saved : List World.View}
    (unwinds : Unwinds world.layers world.view saved) (records : world.Records next) :
    Unwinds next.layers next.view saved := by
  obtain ⟨added, together, view⟩ := records
  rw [together]
  -- Without an open checkpoint nothing was saved; otherwise the new records come off first.
  cases layers : world.layers with
  | nil =>
      rw [layers] at unwinds
      cases saved with
      | nil => trivial
      | cons _ _ => exact unwinds.elim
  | cons layer outer =>
      rw [layers] at unwinds
      cases saved with
      | nil => exact unwinds.elim
      | cons first rest =>
          refine ⟨?_, unwinds.2⟩
          rw [List.foldl_append, view]
          exact unwinds.1

theorem Unwinds.length_eq {layers : List (List Undo)} {view : World.View}
    {saved : List World.View} (unwinds : Unwinds layers view saved) :
    layers.length = saved.length := by
  induction layers generalizing view saved with
  | nil =>
      cases saved with
      | nil => rfl
      | cons _ _ => exact unwinds.elim
  | cons layer outer inductionHypothesis =>
      cases saved with
      | nil => exact unwinds.elim
      | cons first rest =>
          rw [List.length_cons, List.length_cons, inductionHypothesis unwinds.2]

theorem Mirrors.seen (mirrors : Mirrors world snapshots) (address : Address) :
    world.seen address = snapshots.account address := by
  rw [World.seen, ← World.view_getD, mirrors.view, account, Account.view_empty]

/-- A write that leaves records changes the current map and none of the saved ones. -/
theorem Mirrors.write (mirrors : Mirrors world snapshots) (records : world.Records next)
    {account : Option Account.View}
    (written : next.view = Function.update world.view address account) :
    Mirrors next { snapshots with
      current := Function.update snapshots.current address account } where
  view := by rw [written, mirrors.view]
  unwinds := mirrors.unwinds.of_records records

theorem Mirrors.updateHeader (mirrors : Mirrors world snapshots) (address : Address)
    (change : Account → Account) (effect : Account.View → Account.View)
    (keeps : ∀ account, (change account).storage = account.storage)
    (shows : ∀ account, (change account).view = effect account.view) :
    Mirrors (world.updateHeader address change) (snapshots.update address effect) := by
  refine mirrors.write (World.follows_updateHeader world address keeps).journaled ?_
  rw [World.view_updateHeader, shows, ← mirrors.seen, World.seen]

theorem Mirrors.checkpoint (mirrors : Mirrors world snapshots) :
    Mirrors world.checkpoint snapshots.save where
  view := mirrors.view
  unwinds := by
    rw [World.layers_checkpoint]
    exact ⟨mirrors.view, mirrors.view ▸ mirrors.unwinds⟩

theorem Mirrors.saved_nil (mirrors : Mirrors world snapshots) (closed : world.layers = []) :
    snapshots.saved = [] := by
  have lengths := mirrors.unwinds.length_eq
  rw [closed] at lengths
  exact List.length_eq_zero_iff.mp lengths.symm

theorem Mirrors.saved_cons (mirrors : Mirrors world snapshots) {layer : List Undo}
    {outer : List (List Undo)} (layers : world.layers = layer :: outer) :
    ∃ first rest, snapshots.saved = first :: rest ∧
      layer.foldl World.View.undo world.view = first ∧ Unwinds outer first rest := by
  have unwinds := mirrors.unwinds
  rw [layers] at unwinds
  cases saved : snapshots.saved with
  | nil =>
      rw [saved] at unwinds
      exact unwinds.elim
  | cons first rest =>
      rw [saved] at unwinds
      exact ⟨first, rest, rfl, unwinds⟩

/-- The same answer, and what is left is alike. -/
def Agree (world : Option StoreError × World) (snapshots : Option StoreError × Snapshots) : Prop :=
  world.1 = snapshots.1 ∧ Mirrors world.2 snapshots.2

/-- Handing a layer to the enclosing checkpoint forgets the map that was saved last. -/
theorem Mirrors.commit (mirrors : Mirrors world snapshots) :
    Agree (Change.commit.onWorld world) snapshots.drop := by
  unfold Change.onWorld Change.access Access.commit Access.close drop
  simp only [bind_of_ok (get_apply world)]
  rcases world.commit_eq with ⟨closed, refuses⟩ | ⟨layer, outer, journal, layers, commits, merged⟩
  · rw [refuses, mirrors.saved_nil closed]
    exact ⟨rfl, mirrors⟩
  · obtain ⟨first, rest, saved, playedBack, unwinds⟩ := mirrors.saved_cons layers
    rw [commits, saved]
    refine ⟨rfl, mirrors.view, ?_⟩
    change Unwinds journal.layers world.view rest
    rw [merged]
    cases outer with
    | nil =>
        cases rest with
        | nil => trivial
        | cons _ _ => exact unwinds.elim
    | cons next outer =>
        cases rest with
        | nil => exact unwinds.elim
        | cons second rest =>
            refine ⟨?_, unwinds.2⟩
            rw [List.foldl_append]
            exact playedBack.symm ▸ unwinds.1

/-- Playing a layer back gives the map that was saved last. -/
theorem Mirrors.revert (mirrors : Mirrors world snapshots) :
    Agree (Change.revert.onWorld world) snapshots.restore := by
  unfold Change.onWorld Change.access Access.revert Access.close restore
  simp only [bind_of_ok (get_apply world)]
  rcases world.revert_eq with ⟨closed, refuses⟩ | ⟨layer, outer, journal, layers, reverts, left⟩
  · rw [refuses, mirrors.saved_nil closed]
    exact ⟨rfl, mirrors⟩
  · obtain ⟨first, rest, saved, playedBack, unwinds⟩ := mirrors.saved_cons layers
    rw [reverts, saved]
    have view : (layer.foldl World.undo world).view = first := by
      rw [World.view_foldl_undo]
      exact playedBack
    refine ⟨rfl, view, ?_⟩
    change Unwinds journal.layers (layer.foldl World.undo world).view rest
    rw [left, view]
    exact unwinds

/-- Every change keeps world and snapshots alike, and both give the same answer. -/
theorem Mirrors.change (mirrors : Mirrors world snapshots) (change : Change) :
    Agree (change.onWorld world) (change.onSnapshots snapshots) := by
  cases change with
  | setSlot address key value =>
      refine ⟨rfl, mirrors.write (World.follows_setSlot world address key value).journaled ?_⟩
      rw [World.view_writeSlot, mirrors.seen]
  | setBalance address balance =>
      exact ⟨rfl, mirrors.updateHeader address ({ · with balance }) ({ · with balance })
        (fun _ => rfl) fun _ => rfl⟩
  | setNonce address nonce =>
      exact ⟨rfl, mirrors.updateHeader address ({ · with nonce }) ({ · with nonce })
        (fun _ => rfl) fun _ => rfl⟩
  | setCode address code =>
      exact ⟨rfl, mirrors.updateHeader address ({ · with code, codeHash := keccak code })
        ({ · with code, codeHash := keccak code }) (fun _ => rfl) fun _ => rfl⟩
  | destroy address =>
      exact ⟨rfl, mirrors.write (World.records_destroy world address)
        (World.view_destroy world address)⟩
  | checkpoint => exact ⟨rfl, mirrors.checkpoint⟩
  | commit => exact mirrors.commit
  | revert => exact mirrors.revert

/-- What one change keeps, a whole sequence of changes keeps. -/
theorem Mirrors.perform (mirrors : Mirrors world snapshots) (changes : List Change) :
    (world.perform changes).1 = (snapshots.perform changes).1 ∧
      Mirrors (world.perform changes).2 (snapshots.perform changes).2 := by
  induction changes generalizing world snapshots with
  | nil => exact ⟨rfl, mirrors⟩
  | cons change changes inductionHypothesis =>
      obtain ⟨answer, alike⟩ := mirrors.change change
      obtain ⟨answers, final⟩ := inductionHypothesis alike
      exact ⟨congrArg₂ List.cons answer answers, final⟩

theorem Mirrors.shows (mirrors : Mirrors world snapshots) : Shows world snapshots where
  isPresent := fun address => by
    rw [← mirrors.view, World.view, Option.isSome_map]
  balance := fun address => congrArg Account.View.balance (mirrors.seen address)
  nonce := fun address => congrArg Account.View.nonce (mirrors.seen address)
  codeHash := fun address => congrArg Account.View.codeHash (mirrors.seen address)
  code := fun address => congrArg Account.View.code (mirrors.seen address)
  slot := fun address key => congrFun (congrArg Account.View.slots (mirrors.seen address)) key
  depth := world.length_layers ▸ mirrors.unwinds.length_eq

end Snapshots

open Snapshots in
/-- A world without open checkpoints behaves as one map of accounts with a stack of saved maps:
whatever is done to it, in whatever order, the answers are the same, no observation tells the two
apart, and there are as many open checkpoints as saved maps. -/
theorem world_is_stack_of_snapshots (world : World) (closed : world.journal.marks = [])
    (changes : List Change) :
    (world.perform changes).1 = ((ofWorld world).perform changes).1 ∧
      Shows (world.perform changes).2 ((ofWorld world).perform changes).2 := by
  have mirrors : Snapshots.Mirrors world (ofWorld world) := by
    refine ⟨rfl, ?_⟩
    rw [World.layers_eq_nil_iff.mpr closed]
    trivial
  obtain ⟨answers, alike⟩ := mirrors.perform changes
  exact ⟨answers, alike.shows⟩

/-- An account that was destroyed and founded anew under two checkpoints: committing the inner one
and reverting the outer one brings it back, and there is no third checkpoint to revert. -/
theorem refounded_account_comes_back :
    let address : Address := default
    let world := World.empty.setAccount address
      { balance := .one, nonce := 1, code := ByteArray.empty, storage := .empty }
    let changes : List Change := [.checkpoint, .checkpoint, .destroy address,
      .setSlot address .one .one, .commit, .revert, .revert]
    world.journal.marks = [] ∧
      (world.perform changes).1 =
        [none, none, none, none, none, none, some (.noCheckpoint .revert)] ∧
      (world.perform changes).2.balance address = .one ∧
      (world.perform changes).2.slot address .one = .zero := by
  intro address world changes
  obtain ⟨answers, shows⟩ := world_is_stack_of_snapshots world rfl changes
  refine ⟨rfl, answers, ?_, ?_⟩
  · rw [shows.balance]
    rfl
  · rw [shows.slot]
    rfl

end CancunMachine
