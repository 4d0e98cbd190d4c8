import SecondFactor.Bytes

/-!
The flags byte of an authentication. Bit 0 says that a user was present and bit 1 asks for a
transfer of access; the other bits mean nothing and are kept.
-/

namespace SecondFactor.Raw

structure Presence where
  flags : UInt8
deriving DecidableEq, Repr

namespace Presence

def userPresent (presence : Presence) : Bool :=
  presence.flags &&& 1 == 1

def transferAccess (presence : Presence) : Bool :=
  presence.flags &&& 2 == 2

/-- Flags in which no bit is set. -/
def absent : Presence := ⟨0⟩

/-- Flags that report a user and nothing else. -/
def confirmed : Presence := ⟨1⟩

end Presence

end SecondFactor.Raw
