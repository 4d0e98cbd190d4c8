import SecondFactor.Bytes

/-!
Padding of a message before it is hashed: a one bit, zeros, and the length in bits, up to a whole
number of blocks.
-/

namespace SecondFactor.Hash

/-- How many zero bytes bring `length` bytes, a marker and a counter to whole blocks. -/
def zerosFor (blockSize counterSize length : Nat) : Nat :=
  (blockSize - (length + 1 + counterSize) % blockSize) % blockSize

def padded (blockSize counterSize : Nat) (message : Bytes) : Bytes :=
  message ++ 0x80 :: (List.replicate (zerosFor blockSize counterSize message.length) 0
    ++ bytesOfNat counterSize (message.length * 8))

/-- The first `count` blocks. -/
def blocks (blockSize : Nat) : Nat → Bytes → List Bytes
  | 0, _ => []
  | count + 1, bytes => bytes.take blockSize :: blocks blockSize count (bytes.drop blockSize)

/-- The blocks a message is hashed in. -/
def messageBlocks (blockSize counterSize : Nat) (message : Bytes) : List Bytes :=
  let bytes := padded blockSize counterSize message
  blocks blockSize (bytes.length / blockSize) bytes

end SecondFactor.Hash
