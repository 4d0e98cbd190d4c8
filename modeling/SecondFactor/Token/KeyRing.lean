import SecondFactor.Failure
import SecondFactor.KeyPair
import SecondFactor.Table

/-!
The keys of a token under their handles, and its counter. Several tokens may share one such ring.
-/

namespace SecondFactor

/-- A key pair, and the digest of the id of the application it was made for. -/
structure TokenKey where
  application : Digest
  keyPair : KeyPair
deriving DecidableEq

structure KeyRing where
  keys : Table Bytes TokenKey
  counter : UInt32

namespace KeyRing

def ofCounter (counter : UInt32) : KeyRing := ⟨.empty, counter⟩

def key? (ring : KeyRing) (handle : Bytes) : Option TokenKey :=
  ring.keys.get? handle

def addKey (ring : KeyRing) (handle : Bytes) (key : TokenKey) : KeyRing :=
  { ring with keys := ring.keys.insert handle key }

/-- The next counter. There is none after the greatest, for a counter never starts again. -/
def nextCounter (ring : KeyRing) : Except Failure UInt32 × KeyRing :=
  if ring.counter.toNat + 1 < UInt32.size then
    (.ok (ring.counter + 1), { ring with counter := ring.counter + 1 })
  else (.error (.storage "counter exhausted"), ring)

theorem key?_addKey (ring : KeyRing) (handle other : Bytes) (key : TokenKey) :
    (ring.addKey handle key).key? other =
      if other = handle then some key else ring.key? other :=
  ring.keys.get?_insert handle other key

end KeyRing

end SecondFactor
