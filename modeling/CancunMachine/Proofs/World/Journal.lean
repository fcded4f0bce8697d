import Mathlib.Tactic
import CancunMachine.Proofs.World.Header

/-!
# Taking changes back

The journal is correct with respect to what can be seen of the accounts. `World.view` is that
picture, undo records act on it, and `World.Follows` says that playing back what was added to the
innermost layer gives the earlier picture again. Every change of the world leaves such records, and
so does a checkpoint that was opened and closed in between.
-/

namespace CancunMachine

/-- What can be seen of an account: a slot without a value looks like zero. -/
@[ext]
structure Account.View where
  balance : Word
  nonce : UInt64
  codeHash : Hash
  code : ByteArray
  slots : Word → Word

def Account.view (account : Account) : Account.View where
  balance := account.balance
  nonce := account.nonce
  codeHash := account.codeHash
  code := account.code
  slots := account.slot

/-- What can be seen of all accounts. -/
abbrev World.View := Address → Option Account.View

namespace World

def view (world : World) : View := fun address => (world.account? address).map Account.view

/-- Taking one change back in a picture of the accounts. -/
def View.undo (view : View) : Undo → View
  | .header address none => Function.update view address none
  | .header address (some (info, code)) =>
      Function.update view address (some {
        balance := info.balance
        nonce := info.nonce
        codeHash := info.codeHash
        code
        slots := ((view address).getD Account.empty.view).slots })
  | .slot address key previous =>
      match view address with
      | none => view
      | some account => Function.update view address (some { account with
          slots := Function.update account.slots key previous })
  | .destroyed address previous => Function.update view address (some previous.view)

theorem slot_setSlot (account : Account) (key value : Word) :
    (account.setSlot key value).slot = Function.update account.slot key value := by
  funext other
  simp only [Account.slot, Account.setSlot, Table.get?_insert, Function.update_apply]
  split <;> rfl

theorem view_setSlot (account : Account) (key value : Word) :
    (account.setSlot key value).view =
      { account.view with slots := Function.update account.view.slots key value } := by
  have slots := slot_setSlot account key value
  unfold Account.view
  rw [slots]
  rfl

theorem view_setAccount (world : World) (address : Address) (account : Account) :
    (world.setAccount address account).view =
      Function.update world.view address (some account.view) := by
  funext other
  simp only [view, account?_setAccount, Function.update_apply]
  split <;> rfl

theorem view_erase (world : World) (address : Address) :
    ({ world with accounts := world.accounts.erase address } : World).view =
      Function.update world.view address none := by
  funext other
  simp only [view, account?, Table.get?_erase, Function.update_apply]
  split <;> rfl

theorem view_getD (world : World) (address : Address) :
    (world.view address).getD Account.empty.view =
      ((world.account? address).getD .empty).view := by
  unfold view
  cases world.account? address <;> rfl

/-- Undo records act on pictures as they do on worlds. -/
theorem view_undo (world : World) (undo : Undo) :
    (world.undo undo).view = world.view.undo undo := by
  cases undo with
  | header address previous =>
      cases previous with
      | none => exact view_erase world address
      | some previous =>
          simp only [World.undo, View.undo, view_setAccount, view_getD]
          rfl
  | slot address key previous =>
      simp only [World.undo, View.undo]
      cases found : world.account? address with
      | none => simp only [view, found, Option.map_none]
      | some account =>
          have shown : world.view address = some account.view := by simp [view, found]
          simp only [shown, view_setAccount, view_setSlot]
  | destroyed address previous => exact view_setAccount world address previous

theorem initials_undo (world : World) (undo : Undo) :
    (world.undo undo).initials = world.initials := by
  rcases undo with ⟨address, _ | previous⟩ | ⟨address, key, previous⟩ | ⟨address, previous⟩
  · rfl
  · rfl
  · simp only [World.undo]
    split <;> rfl
  · rfl

theorem blockHashes_undo (world : World) (undo : Undo) :
    (world.undo undo).blockHashes = world.blockHashes := by
  rcases undo with ⟨address, _ | previous⟩ | ⟨address, key, previous⟩ | ⟨address, previous⟩
  · rfl
  · rfl
  · simp only [World.undo]
    split <;> rfl
  · rfl

theorem view_foldl_undo (layer : List Undo) (world : World) :
    (layer.foldl undo world).view = layer.foldl View.undo world.view := by
  induction layer generalizing world with
  | nil => rfl
  | cons undo layer inductionHypothesis =>
      rw [List.foldl_cons, inductionHypothesis, view_undo, List.foldl_cons]

theorem initials_foldl_undo (layer : List Undo) (world : World) :
    (layer.foldl undo world).initials = world.initials := by
  induction layer generalizing world with
  | nil => rfl
  | cons undo layer inductionHypothesis =>
      rw [List.foldl_cons, inductionHypothesis, initials_undo]

theorem blockHashes_foldl_undo (layer : List Undo) (world : World) :
    (layer.foldl undo world).blockHashes = world.blockHashes := by
  induction layer generalizing world with
  | nil => rfl
  | cons undo layer inductionHypothesis =>
      rw [List.foldl_cons, inductionHypothesis, blockHashes_undo]

theorem view_record (world : World) (undo : Undo) : (world.record undo).view = world.view := rfl

/-- The accounts of two worlds cannot be told apart. -/
structure LooksLike (world other : World) : Prop where
  isPresent : ∀ address, (other.account? address).isSome = (world.account? address).isSome
  balance : ∀ address, other.balance address = world.balance address
  nonce : ∀ address, other.nonce address = world.nonce address
  code : ∀ address, other.code address = world.code address
  codeHash : ∀ address, other.codeHash address = world.codeHash address
  slot : ∀ address key, other.slot address key = world.slot address key

theorem looksLike_of_view {world other : World} (same : other.view = world.view) :
    world.LooksLike other := by
  have views : ∀ address, ((other.account? address).getD .empty).view =
      ((world.account? address).getD .empty).view := by
    intro address
    rw [← view_getD, ← view_getD, same]
  constructor
  case isPresent =>
    intro address
    have present : ∀ world : World, (world.account? address).isSome =
        (world.view address).isSome := by
      intro world
      rw [view, Option.isSome_map]
    rw [present, present, same]
  case balance => exact fun address => congrArg Account.View.balance (views address)
  case nonce => exact fun address => congrArg Account.View.nonce (views address)
  case code => exact fun address => congrArg Account.View.code (views address)
  case codeHash => exact fun address => congrArg Account.View.codeHash (views address)
  case slot => exact fun address key => congrFun (congrArg Account.View.slots (views address)) key

theorem slot_of_view {world other : World} (same : world.view = other.view) (address : Address)
    (key : Word) : world.slot address key = other.slot address key :=
  (looksLike_of_view same).slot address key

/-- `next` comes after `world` in the same transaction: what was done in between can be taken back
with the records that were left in the innermost layer, and slots have the same initial values. -/
structure Follows (world next : World) : Prop where
  journaled : ∃ records, next.layers = world.layers.modifyHead (records ++ ·) ∧
    records.foldl View.undo next.view = world.view
  initialSlot : ∀ address key, next.initialSlot address key = world.initialSlot address key
  unwritten : ∀ address key, next.initials.get? (address, key) = none →
    world.initials.get? (address, key) = none ∧ next.slot address key = world.slot address key
  blockHashes : next.blockHashes = world.blockHashes

namespace Follows

theorem modifyHead_nil (layers : List (List Undo)) : layers.modifyHead ([] ++ ·) = layers := by
  cases layers <;> rfl

theorem refl (world : World) : world.Follows world where
  journaled := ⟨[], (modifyHead_nil world.layers).symm, rfl⟩
  initialSlot := fun _ _ => rfl
  unwritten := fun _ _ none => ⟨none, rfl⟩
  blockHashes := rfl

theorem trans {first second third : World} (earlier : first.Follows second)
    (later : second.Follows third) : first.Follows third where
  journaled := by
    obtain ⟨old, oldJournal, oldView⟩ := earlier.journaled
    obtain ⟨new, newJournal, newView⟩ := later.journaled
    refine ⟨new ++ old, ?_, ?_⟩
    · rw [newJournal, oldJournal]
      cases first.layers
      · rfl
      · simp [List.modifyHead]
    · rw [List.foldl_append, newView, oldView]
  initialSlot := fun address key =>
    (later.initialSlot address key).trans (earlier.initialSlot address key)
  unwritten := by
    intro address key none
    obtain ⟨before, same⟩ := later.unwritten address key none
    obtain ⟨first, sameFirst⟩ := earlier.unwritten address key before
    exact ⟨first, same.trans sameFirst⟩
  blockHashes := later.blockHashes.trans earlier.blockHashes

theorem checkpointDepth {world next : World} (follows : world.Follows next) :
    next.checkpointDepth = world.checkpointDepth := by
  obtain ⟨records, journal, _⟩ := follows.journaled
  rw [← length_layers, ← length_layers, journal, List.length_modifyHead]

end Follows

theorem slot_updateHeader (world : World) (address other : Address) (key : Word)
    {change : Account → Account} (keeps : ∀ account, (change account).storage = account.storage) :
    (world.updateHeader address change).slot other key = world.slot other key := by
  unfold slot
  rw [account?_updateHeader]
  split
  · rename_i same
    simp only [same, Option.getD_some, Account.slot, keeps]
  · rfl

theorem view_updateHeader (world : World) (address : Address) (change : Account → Account) :
    (world.updateHeader address change).view = Function.update world.view address
      (some (change ((world.account? address).getD .empty)).view) := by
  simp only [updateHeader, view_setAccount, view_record]

theorem follows_updateHeader (world : World) (address : Address) {change : Account → Account}
    (keeps : ∀ account, (change account).storage = account.storage) :
    world.Follows (world.updateHeader address change) where
  journaled := by
    refine ⟨[.header address ((world.account? address).map Account.header)],
      layers_record world _, ?_⟩
    rw [List.foldl_cons, List.foldl_nil, view_updateHeader]
    cases found : world.account? address with
    | none =>
        have unseen : world.view address = none := by simp [view, found]
        simp only [Option.map_none, View.undo, Function.update_idem]
        rw [← unseen, Function.update_eq_self]
    | some account =>
        have seen : world.view address = some account.view := by simp [view, found]
        have slots : (change account).view.slots = account.view.slots := by
          funext key
          simp only [Account.view, Account.slot, keeps]
        simp only [Option.map_some, Account.header, View.undo, Function.update_self,
          Option.getD_some, slots, Function.update_idem]
        exact (congrArg _ seen.symm).trans (Function.update_eq_self address world.view)
  initialSlot := fun other key =>
    congrArg (fun slot => (world.initials.get? (other, key)).getD slot)
      (slot_updateHeader world address other key keeps)
  unwritten := fun other key none => ⟨none, slot_updateHeader world address other key keeps⟩
  blockHashes := rfl

theorem follows_setBalance (world : World) (address : Address) (balance : Word) :
    world.Follows (world.setBalance address balance) :=
  follows_updateHeader world address fun _ => rfl

theorem follows_setNonce (world : World) (address : Address) (nonce : UInt64) :
    world.Follows (world.setNonce address nonce) :=
  follows_updateHeader world address fun _ => rfl

theorem follows_setCode (world : World) (address : Address) (code : ByteArray) :
    world.Follows (world.setCode address code) :=
  follows_updateHeader world address fun _ => rfl

theorem follows_of_moves {source target : Address} {value : Word} {world final : World}
    (moves : Moves source target value world final) : world.Follows final := by
  cases moves with
  | nothing => exact .refl world
  | something _ _ _ => exact (follows_setBalance _ _ _).trans (follows_setBalance _ _ _)

theorem initials_rememberInitial (world : World) (address other : Address) (key otherKey : Word) :
    (world.rememberInitial address key).initials.get? (other, otherKey) =
      if (other, otherKey) = (address, key) then some (world.initialSlot address key)
      else world.initials.get? (other, otherKey) := by
  unfold rememberInitial initialSlot Table.contains
  cases remembered : world.initials.get? (address, key) with
  | none => simp only [Option.isSome_none, Bool.false_eq_true, if_false, Table.get?_insert,
      Option.getD_none]
  | some value =>
      simp only [Option.isSome_some, if_true, Option.getD_some]
      split
      · rename_i same
        rw [same, remembered]
      · rfl

theorem accounts_rememberInitial (world : World) (address : Address) (key : Word) :
    (world.rememberInitial address key).accounts = world.accounts := by
  unfold rememberInitial
  split <;> rfl

theorem layers_rememberInitial (world : World) (address : Address) (key : Word) :
    (world.rememberInitial address key).layers = world.layers := by
  unfold rememberInitial
  split <;> rfl

theorem view_rememberInitial (world : World) (address : Address) (key : Word) :
    (world.rememberInitial address key).view = world.view := by
  unfold view account?
  rw [accounts_rememberInitial]

theorem follows_rememberInitial (world : World) (address : Address) (key : Word) :
    world.Follows (world.rememberInitial address key) where
  journaled := by
    refine ⟨[], ?_, view_rememberInitial world address key⟩
    rw [Follows.modifyHead_nil, layers_rememberInitial]
  initialSlot := by
    intro other otherKey
    rw [World.initialSlot, initials_rememberInitial]
    split
    · rename_i same
      cases same
      rfl
    · rw [slot_of_view (view_rememberInitial world address key)]
      rfl
  unwritten := by
    intro other otherKey none
    rw [initials_rememberInitial] at none
    split at none
    · cases none
    · exact ⟨none, slot_of_view (view_rememberInitial world address key) other otherKey⟩
  blockHashes := by
    unfold rememberInitial
    split <;> rfl

/-- A slot whose initial value is remembered can be written. -/
theorem follows_writing {world : World} {address : Address} {key initial : Word} {account : Account}
    (present : world.account? address = some account)
    (remembered : world.initials.get? (address, key) = some initial) (value : Word) :
    world.Follows ((world.record (.slot address key (world.slot address key))).setAccount address
      (account.setSlot key value)) := by
  have seen : world.view address = some account.view := by simp [view, present]
  have elsewhere : ∀ other otherKey, (other, otherKey) ≠ (address, key) →
      ((world.record (.slot address key (world.slot address key))).setAccount address
        (account.setSlot key value)).slot other otherKey = world.slot other otherKey := by
    intro other otherKey different
    rw [slot, account?_setAccount, account?_record]
    split
    · rename_i same
      have differentKey : otherKey ≠ key := fun sameKey => different (by rw [same, sameKey])
      rw [Option.getD_some, slot_setSlot, Function.update_of_ne differentKey, slot, same, present]
      rfl
    · rfl
  refine ⟨⟨[.slot address key (world.slot address key)], layers_record world _, ?_⟩, ?_, ?_,
    rfl⟩
  · have previous : world.slot address key = account.view.slots key := by
      simp [slot, present, Account.view]
    rw [List.foldl_cons, List.foldl_nil, view_setAccount, view_record]
    simp only [View.undo, Function.update_self, view_setSlot, Function.update_idem]
    rw [previous, Function.update_eq_self, ← seen, Function.update_eq_self]
  · intro other otherKey
    have initials : ∀ next : World, next.initials = world.initials →
        (next.slot other otherKey = world.slot other otherKey ∨ (other, otherKey) = (address, key)) →
        next.initialSlot other otherKey = world.initialSlot other otherKey := by
      intro next same unchanged
      rw [World.initialSlot, World.initialSlot, same]
      rcases unchanged with unchanged | written
      · rw [unchanged]
      · rw [written, remembered]
        rfl
    refine initials _ rfl ?_
    rcases eq_or_ne (other, otherKey) (address, key) with written | different
    · exact .inr written
    · exact .inl (elsewhere other otherKey different)
  · intro other otherKey none
    have unremembered : world.initials.get? (other, otherKey) = .none := none
    refine ⟨unremembered, elsewhere other otherKey ?_⟩
    rintro same
    rw [same, remembered] at unremembered
    cases unremembered

/-- The world in which `setSlot` writes: the account exists and the initial value is known. -/
theorem setSlot_eq (world : World) (address : Address) (key value : Word) :
    ∃ ready account, world.Follows ready ∧
      ready.account? address = some account ∧
      (∃ initial, ready.initials.get? (address, key) = some initial) ∧
      ready.slot address key = world.slot address key ∧
      (∀ other, ready.balance other = world.balance other) ∧
      world.setSlot address key value =
        (ready.record (.slot address key (ready.slot address key))).setAccount address
          (account.setSlot key value) := by
  have remembered : (world.rememberInitial address key).initials.get? (address, key) =
      some (world.initialSlot address key) := by
    rw [initials_rememberInitial, if_pos rfl]
  have sameSlot := slot_of_view (view_rememberInitial world address key) address key
  have before := follows_rememberInitial world address key
  have balances := (looksLike_of_view (view_rememberInitial world address key)).balance
  unfold setSlot
  simp only [Table.contains]
  generalize world.rememberInitial address key = first at remembered sameSlot before balances
  cases present : first.account? address with
  | some account =>
      refine ⟨first, account, before, present, ⟨_, remembered⟩, sameSlot, balances, ?_⟩
      unfold account? at present
      simp only [present, Option.isSome_some, if_true, account?_record, sameSlot]
      simp only [account?, present, Option.getD_some]
  | none =>
      have added : (first.updateHeader address id).account? address = some Account.empty := by
        rw [account?_updateHeader, if_pos rfl, present]
        rfl
      have slot : (first.updateHeader address id).slot address key = world.slot address key :=
        (slot_updateHeader first address address key fun _ => rfl).trans sameSlot
      refine ⟨first.updateHeader address id, .empty,
        before.trans (follows_updateHeader first address fun _ => rfl), added,
        ⟨world.initialSlot address key, ?_⟩, slot, ?_, ?_⟩
      · rw [← remembered]
        rfl
      · intro other
        rw [← balances, balance, account?_updateHeader]
        split
        · rename_i same
          rw [same, balance, present]
          rfl
        · rfl
      · unfold account? at present
        simp only [present, Option.isSome_none, Bool.false_eq_true, if_false, account?_record,
          added, slot, Option.getD_some]

theorem follows_setSlot (world : World) (address : Address) (key value : Word) :
    world.Follows (world.setSlot address key value) := by
  obtain ⟨ready, account, before, present, ⟨initial, remembered⟩, -, -, written⟩ :=
    setSlot_eq world address key value
  rw [written]
  exact before.trans (follows_writing present remembered value)

theorem balance_setSlot (world : World) (address other : Address) (key value : Word) :
    (world.setSlot address key value).balance other = world.balance other := by
  obtain ⟨ready, account, _, present, _, _, balances, written⟩ := setSlot_eq world address key value
  rw [written, ← balances, balance, account?_setAccount, account?_record]
  split
  · rename_i same
    rw [same, balance, present]
    rfl
  · rfl

/-- The layer of a checkpoint holds the records of what was done since. -/
theorem Follows.layer {world ended : World} (course : world.checkpoint.Follows ended) :
    ∃ records, ended.layers = records :: world.layers ∧
      records.foldl View.undo ended.view = world.view := by
  obtain ⟨records, layers, view⟩ := course.journaled
  refine ⟨records, ?_, view⟩
  rw [layers, layers_checkpoint, List.modifyHead_cons, List.append_nil]

theorem view_of_commit {world committed : World} (commits : world.commit = .ok committed) :
    committed.view = world.view := by
  unfold World.commit at commits
  split at commits
  · cases commits
  · cases commits
    rfl

theorem Follows.commit {world ended committed : World} (course : world.checkpoint.Follows ended)
    (commits : ended.commit = .ok committed) : world.Follows committed := by
  obtain ⟨records, layers, view⟩ := course.layer
  have sameView := view_of_commit commits
  have journaled : committed.layers = world.layers.modifyHead (records ++ ·) ∧
      committed.initials = ended.initials ∧ committed.blockHashes = ended.blockHashes := by
    rcases ended.commit_eq with ⟨_, refuses⟩ | ⟨layer, outer, journal, cut, succeeds, merged⟩
    · rw [refuses] at commits
      cases commits
    · rw [succeeds] at commits
      cases commits
      rw [layers] at cut
      cases cut
      exact ⟨merged, rfl, rfl⟩
  obtain ⟨journaled, initials, blockHashes⟩ := journaled
  refine ⟨⟨records, journaled, by rw [sameView, view]⟩, ?_, ?_,
    blockHashes.trans course.blockHashes⟩
  · intro address key
    rw [World.initialSlot, initials, slot_of_view sameView]
    exact course.initialSlot address key
  · intro address key none
    rw [initials] at none
    rw [slot_of_view sameView]
    exact course.unwritten address key none

/-- What a revert brings back: everything that can be seen, and the initial values of slots. -/
structure Restores (world reverted : World) : Prop where
  layers : reverted.layers = world.layers
  view : reverted.view = world.view
  initialSlot : ∀ address key, reverted.initialSlot address key = world.initialSlot address key
  unwritten : ∀ address key, reverted.initials.get? (address, key) = none →
    world.initials.get? (address, key) = none
  blockHashes : reverted.blockHashes = world.blockHashes

theorem Follows.revert {world ended reverted : World} (course : world.checkpoint.Follows ended)
    (reverts : ended.revert = .ok reverted) : world.Restores reverted := by
  obtain ⟨records, layers, view⟩ := course.layer
  rcases ended.revert_eq with ⟨_, refuses⟩ | ⟨layer, outer, journal, cut, succeeds, left⟩
  · rw [refuses] at reverts
    cases reverts
  rw [succeeds] at reverts
  cases reverts
  rw [layers] at cut
  cases cut
  have initials := initials_foldl_undo records ended
  have sameView : ({ records.foldl undo ended with journal } : World).view = world.view :=
    (view_foldl_undo records ended).trans view
  have unwritten : ∀ address key, ended.initials.get? (address, key) = none →
      world.initials.get? (address, key) = none :=
    fun address key none => (course.unwritten address key none).1
  refine ⟨left, sameView, ?_, ?_, (blockHashes_foldl_undo records _).trans course.blockHashes⟩
  · intro address key
    rw [World.initialSlot, initials, slot_of_view sameView]
    -- A remembered value is the initial one; without one, the slot was never written.
    cases remembered : ended.initials.get? (address, key) with
    | none => rw [World.initialSlot, unwritten address key remembered]
    | some value =>
        have initial := course.initialSlot address key
        rw [World.initialSlot, remembered] at initial
        exact initial
  · intro address key none
    rw [initials] at none
    exact unwritten address key none

theorem Restores.follows {world reverted : World} (restores : world.Restores reverted) :
    world.Follows reverted where
  journaled := ⟨[], by rw [Follows.modifyHead_nil, restores.layers], restores.view⟩
  initialSlot := restores.initialSlot
  unwritten := fun address key none =>
    ⟨restores.unwritten address key none, slot_of_view restores.view address key⟩
  blockHashes := restores.blockHashes

end World

end CancunMachine
