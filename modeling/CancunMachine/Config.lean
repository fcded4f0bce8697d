import CancunMachine.Failure
import CancunMachine.Json

/-!
# Limits and switches

Limits and switches of the machine, and their JSON form: an object whose fields may be left out,
or an array of the values in the order of the fields. Fields with unknown names are passed over;
a known field may be given once.
-/

namespace CancunMachine

structure Config where
  /-- Calls and creations at this depth fail without starting a child. -/
  maxCallDepth : Nat
  maxCodeSize : Nat
  maxInitcodeSize : Nat
  /-- The capacity of a cache owned by one machine. -/
  codeCacheCapacity : Nat
  /-- Whether every storage access is reported to the tracer. -/
  trackStateChanges : Bool
  chainId : UInt64
deriving DecidableEq

namespace Config

/-- The limits in force since the Cancun fork. -/
def standard : Config where
  maxCallDepth := 1024
  maxCodeSize := 24576
  maxInitcodeSize := 49152
  codeCacheCapacity := 4096
  trackStateChanges := false
  chainId := 1

instance : Inhabited Config := ⟨standard⟩

inductive Field
  | maxCallDepth
  | maxCodeSize
  | maxInitcodeSize
  | codeCacheCapacity
  | trackStateChanges
  | chainId
deriving DecidableEq

/-- The fields in the order of the array form. -/
def Field.all : List Field :=
  [maxCallDepth, maxCodeSize, maxInitcodeSize, codeCacheCapacity, trackStateChanges, chainId]

def Field.name : Field → String
  | maxCallDepth => "max_call_depth"
  | maxCodeSize => "max_code_size"
  | maxInitcodeSize => "max_initcode_size"
  | codeCacheCapacity => "code_cache_capacity"
  | trackStateChanges => "track_state_changes"
  | chainId => "chain_id"

def Field.ofName? (name : String) : Option Field :=
  all.find? fun field => field.name = name

def set (config : Config) (field : Field) (value : Json) : Option Config :=
  match field with
  | .maxCallDepth => value.toUInt64?.map fun limit => { config with maxCallDepth := limit.toNat }
  | .maxCodeSize => value.toUInt64?.map fun limit => { config with maxCodeSize := limit.toNat }
  | .maxInitcodeSize =>
      value.toUInt64?.map fun limit => { config with maxInitcodeSize := limit.toNat }
  | .codeCacheCapacity =>
      value.toUInt64?.map fun limit => { config with codeCacheCapacity := limit.toNat }
  | .trackStateChanges => value.toBool?.map fun flag => { config with trackStateChanges := flag }
  | .chainId => value.toUInt64?.map fun number => { config with chainId := number }

/-- Sets the fields of an object; `given` are the fields that may not come again. -/
def setFields (config : Config) (given : List Field) : List (Option String × Json) → Option Config
  | [] => some config
  | (name, value) :: rest => do
      match Field.ofName? (← name) with
      | none => setFields config given rest
      | some field =>
          if given.contains field then none
          else setFields (← config.set field value) (field :: given) rest

/-- Sets fields in order from the items of an array, of which there may be fewer. -/
def setItems (config : Config) : List Field → List Json → Option Config
  | _, [] => some config
  | [], _ :: _ => none
  | field :: fields, item :: items => do
      setItems (← config.set field item) fields items

def ofJson? : Json → Option Config
  | .object fields => setFields standard [] fields
  | .array items => setItems standard Field.all items
  | _ => none

def read (text : String) : Except Failure Config :=
  match (Json.read? text).bind ofJson? with
  | some config => .ok config
  | none => .error (.internal (.custom "malformed configuration"))

end Config

end CancunMachine
