import PadRelay.Identity
import PadRelay.Table

/-!
# Channel pairs

Every identity has a long-lived clear channel and, while it asks about a key, a short-lived
encrypted one. A pair has a slot for each. A slot empties when its connection closes, and a pair
with no live connection left is dropped.

A slot names a connection and its identity; whether the connection is open is asked of the caller.
-/

namespace PadRelay

/-- The name of a connection object. Two objects may carry the same identity. -/
abbrev Handle := Nat

/-- A connection as it is entered somewhere: the object, and the identity that it carries. -/
structure Party where
  handle : Handle
  id : Identity
deriving DecidableEq, Inhabited

/-- The two sides of a pair. -/
inductive Role where
  /-- The long-lived application channel. -/
  | clear
  /-- The one-shot channel for keys. -/
  | encrypted
deriving DecidableEq, Repr

/-- The connections of one identity. -/
structure Pair where
  clear : Option Party := none
  encrypted : Option Party := none
deriving DecidableEq

namespace Pair

def slot (pair : Pair) : Role → Option Party
  | .clear => pair.clear
  | .encrypted => pair.encrypted

def setSlot (pair : Pair) (role : Role) (party : Option Party) : Pair :=
  match role with
  | .clear => { pair with clear := party }
  | .encrypted => { pair with encrypted := party }

/-- The connection in a slot, if it is live. -/
def live (isLive : Handle → Bool) (pair : Pair) (role : Role) : Option Party :=
  (pair.slot role).filter fun party => isLive party.handle

/-- The pair without the connections that are not live. -/
def prune (isLive : Handle → Bool) (pair : Pair) : Pair :=
  ⟨pair.live isLive .clear, pair.live isLive .encrypted⟩

/-- Whether both slots are empty. -/
def isVacant (pair : Pair) : Bool := pair.clear.isNone && pair.encrypted.isNone

end Pair

abbrev Pairs := Table Identity Pair

namespace Pairs

/-- Whether a slot holds a connection with the given identity. -/
def holds (pairs : Pairs) (identity : Identity) (role : Role) (id : Identity) : Bool :=
  match pairs.get? identity with
  | some pair => (pair.slot role).any fun party => party.id = id
  | none => false

/-- Put a connection into a slot, creating the pair. -/
def place (pairs : Pairs) (identity : Identity) (role : Role) (party : Party) : Pairs :=
  pairs.insert identity (((pairs.get? identity).getD {}).setSlot role (some party))

/-- The connection with identity `id` that a slot held has closed: empty the slot if it still holds
that connection, and drop the pair if nothing live is left in it. -/
def vacate (isLive : Handle → Bool) (pairs : Pairs) (identity : Identity) (role : Role)
    (id : Identity) : Pairs :=
  match pairs.get? identity with
  | none => pairs
  | some pair =>
      let emptied := if pairs.holds identity role id then pair.setSlot role none else pair
      let pruned := emptied.prune isLive
      if pruned.isVacant then pairs.erase identity else pairs.insert identity pruned

def connectionOf (isLive : Handle → Bool) (pairs : Pairs) (identity : Identity) (role : Role) :
    Option Party :=
  (pairs.get? identity).bind fun pair => pair.live isLive role

/-- Whether both slots hold live connections. -/
def isActive (isLive : Handle → Bool) (pairs : Pairs) (identity : Identity) : Bool :=
  (pairs.connectionOf isLive identity .clear).isSome &&
    (pairs.connectionOf isLive identity .encrypted).isSome

/-- A slot that holds a connection with the given identity; in a pair the clear side comes first. -/
def slotOf (pairs : Pairs) (id : Identity) : Option (Identity × Role) :=
  pairs.entries.findSome? fun (identity, pair) =>
    [Role.clear, .encrypted].findSome? fun role =>
      if (pair.slot role).any fun party => party.id = id then some (identity, role) else none

end Pairs

end PadRelay
