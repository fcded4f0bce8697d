import CancunMachine.Address

/-!
# Address policies

Addresses the machine treats differently: precompiled contracts, accounts owned by the host,
targets that must exist and code that refuses to run in another account's name.
-/

namespace CancunMachine

/-- The classification of addresses. -/
structure AddressPolicy where
  isPrecompile : Address → Bool
  /-- Accounts owned by the host rather than by users. -/
  isSystemAccount : Address → Bool
  /-- Whether a message to the address requires the account to exist. -/
  mustBePresent : Address → Bool
  /-- The sender that a child of `caller` addressed to `recipient` sees. -/
  senderFor : (caller recipient : Address) → Address
  /-- Whether code at the address refuses to run in another account's context. -/
  forbidsDelegation : Address → Bool
  /-- Addresses that are warm in every transaction. -/
  alwaysWarm : List Address

namespace AddressPolicy

/-- Accounts whose code cannot be inspected. -/
def isHostAccount (policy : AddressPolicy) (address : Address) : Bool :=
  policy.isPrecompile address || policy.isSystemAccount address

/-- The number of precompiled contracts, at the addresses from one on. -/
def precompileCount : Nat := 10

/-- Precompiled contracts at the lowest addresses, listed system accounts, listed code that may
not be delegated to, an optional requirement that targets exist and a choice of senders. -/
def standardWith (systemAccounts delegationForbidden : List Address) (requiredTargets : Bool)
    (senderFor : Address → Address → Address) : AddressPolicy :=
  let isPrecompile (address : Address) : Bool :=
    1 ≤ address.toNat && address.toNat ≤ precompileCount
  { isPrecompile
    isSystemAccount := systemAccounts.contains
    mustBePresent := fun address => requiredTargets && !isPrecompile address
    senderFor
    forbidsDelegation := delegationForbidden.contains
    alwaysWarm := (List.range precompileCount).map fun index => Address.ofNat (index + 1) }

/-- Precompiled contracts only. -/
def standard : AddressPolicy := standardWith [] [] false fun caller _ => caller

instance : Inhabited AddressPolicy := ⟨standard⟩

end AddressPolicy

end CancunMachine
