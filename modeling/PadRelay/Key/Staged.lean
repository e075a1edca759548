import PadRelay.Identity
import PadRelay.Key
import PadRelay.Table

/-!
# Staged keys

A staged key has been handed out and waits for its acknowledgement until a deadline. A lookup never
shows a key past its deadline, whether or not its timer has run. The last key of an identity that
expired or was replaced stays behind as retired, so that a late acknowledgement can be recognised.

Every staging has a generation number of its own. A timer names the generation that it was set for,
so a late timer cannot touch a newer key. A key that is staged again is still the same key: its
stamp is the generation of its first staging, and taking a key out compares stamps, not bytes.
-/

namespace PadRelay

/-- A key together with the generation of its first staging. -/
structure StagedKey where
  key : Key
  stamp : Nat
deriving DecidableEq

/-- A key that waits for its acknowledgement. -/
structure Staging where
  /-- The key. -/
  held : StagedKey
  /-- The first moment at which it is too late. -/
  deadline : Nat
  /-- Which staging it is. -/
  generation : Nat
deriving DecidableEq

/-- Whether a staging is in time. -/
def Staging.isLive (staging : Staging) (now : Nat) : Bool := now < staging.deadline

/-- The staged and the retired keys of all identities. -/
structure StagedKeys where
  /-- How long a key waits, in nanoseconds. -/
  expiry : Nat
  /-- Keys that wait, overdue ones included until something notices. -/
  entries : Table Identity Staging := ∅
  /-- The last expired or replaced key of an identity. -/
  retired : Table Identity StagedKey := ∅
  /-- The generation of the next staging. -/
  generation : Nat := 0
  /-- How many keys have expired. -/
  expired : Nat := 0

namespace StagedKeys

/-- Stage a key that was staged before, under a new generation. A key that it replaces is retired;
if it replaces none, the retired key is dropped. -/
def putHeld (keys : StagedKeys) (now : Nat) (identity : Identity) (held : StagedKey) : StagedKeys :=
  { keys with
    entries := keys.entries.insert identity ⟨held, now + keys.expiry, keys.generation⟩
    retired :=
      match keys.entries.get? identity with
      | some previous => keys.retired.insert identity previous.held
      | none => keys.retired.erase identity
    generation := keys.generation + 1 }

/-- Stage a new key. -/
def put (keys : StagedKeys) (now : Nat) (identity : Identity) (key : Key) : StagedKeys :=
  keys.putHeld now identity ⟨key, keys.generation⟩

/-- A timer runs out: the staging that it was set for is retired, if it is still there. -/
def expire (keys : StagedKeys) (identity : Identity) (generation : Nat) : StagedKeys :=
  match keys.entries.get? identity with
  | some staging =>
      if staging.generation = generation then
        { keys with
          entries := keys.entries.erase identity
          retired := keys.retired.insert identity staging.held
          expired := keys.expired + 1 }
      else keys
  | none => keys

/-- The staged key of an identity. A key past its deadline is retired on the spot. -/
def get (keys : StagedKeys) (now : Nat) (identity : Identity) : Option StagedKey × StagedKeys :=
  match keys.entries.get? identity with
  | some staging =>
      if staging.isLive now then (some staging.held, keys)
      else (none, keys.expire identity staging.generation)
  | none => (none, keys)

/-- Drop what an identity has: the key that it lost, if that was still in time. -/
def remove (keys : StagedKeys) (now : Nat) (identity : Identity) : Option StagedKey × StagedKeys :=
  let rest := { keys with
    entries := keys.entries.erase identity
    retired := keys.retired.erase identity }
  match keys.entries.get? identity with
  | some staging => (if staging.isLive now then some staging.held else none, rest)
  | none => (none, rest)

/-- Take the staged key of an identity out if it is the expected one and in time. -/
def takeIf (keys : StagedKeys) (now : Nat) (identity : Identity) (expected : StagedKey) :
    Option StagedKey × StagedKeys :=
  match keys.entries.get? identity with
  | some staging =>
      if staging.held.stamp = expected.stamp && staging.isLive now then
        (some staging.held, { keys with
          entries := keys.entries.erase identity
          retired := keys.retired.erase identity })
      else (none, keys)
  | none => (none, keys)

def clear (keys : StagedKeys) : StagedKeys := { keys with entries := ∅, retired := ∅ }

/-- Run the timer of an identity's staging if it is due. -/
def expireDue (keys : StagedKeys) (now : Nat) (identity : Identity) : StagedKeys :=
  match keys.entries.get? identity with
  | some staging =>
      if staging.isLive now then keys else keys.expire identity staging.generation
  | none => keys

def runTimers (keys : StagedKeys) (now : Nat) : StagedKeys :=
  keys.entries.keys.foldl (fun keys identity => keys.expireDue now identity) keys

/-- A lookup shows what is left after running the timer that may be due. -/
theorem get_snd (keys : StagedKeys) (now : Nat) (identity : Identity) :
    (keys.get now identity).2 = keys.expireDue now identity := by
  unfold get expireDue
  split
  · split <;> rfl
  · rfl

end StagedKeys

end PadRelay
