import SecondFactor.Residue
import SecondFactor.Signature.Integers
import SecondFactor.Hash.Sha1
import SecondFactor.Hash.Sha256
import SecondFactor.Hash.Sha512

/-!
RSA signatures with the first version of the padding: a signature raised to the public exponent is
the one encoding of the message's hash.
-/

namespace SecondFactor.Signature.Rsa

/-- A hash function, the marker that names it in front of its value, and the least size in bits of
a modulus it is accepted with. -/
structure Scheme where
  hash : Bytes → Bytes
  marker : Bytes
  leastBits : Nat

def sha1 : Scheme where
  hash := Hash.Sha1.hash
  marker := [0x30, 0x21, 0x30, 0x09, 0x06, 0x05, 0x2B, 0x0E, 0x03, 0x02, 0x1A, 0x05, 0x00, 0x04,
    0x14]
  leastBits := 1024

/-- The marker of a hash of the second family, by the last part of its name and its size. -/
def marker (name size : UInt8) : Bytes :=
  [0x30, size + 17, 0x30, 0x0D, 0x06, 0x09, 0x60, 0x86, 0x48, 0x01, 0x65, 0x03, 0x04, 0x02, name,
    0x05, 0x00, 0x04, size]

def sha256 : Scheme where
  hash := Hash.Sha256.hash
  marker := marker 1 32
  leastBits := 2048

def sha384 : Scheme where
  hash := Hash.Sha512.shortHash
  marker := marker 2 48
  leastBits := 2048

def sha512 : Scheme where
  hash := Hash.Sha512.hash
  marker := marker 3 64
  leastBits := 2048

def mostBits : Nat := 8192

/-- The least size is compared in whole bytes. Moduli are odd, and exponents are odd, at least
three, and of no more than 33 bits. -/
def isKey (scheme : Scheme) (modulus exponent : Nat) : Bool :=
  let bits := modulus.log2 + 1
  modulus % 2 = 1 && scheme.leastBits ≤ (bits + 7) / 8 * 8 && bits ≤ mostBits
    && exponent % 2 = 1 && 3 ≤ exponent && exponent < 1 <<< 33

/-- `00 01 FF … FF 00 | marker | hash`, of the given size. -/
def encoding (scheme : Scheme) (size : Nat) (message : Bytes) : Bytes :=
  let tail := scheme.marker ++ scheme.hash message
  0x00 :: 0x01 :: (List.replicate (size - 3 - tail.length) 0xFF ++ 0x00 :: tail)

/-- Whether a signature, which is as long as the modulus, signs a message under an encoded key. -/
def verify (scheme : Scheme) (key message signature : Bytes) : Bool :=
  match readPair? key with
  | some (modulus, exponent) =>
    let size := byteSize modulus
    isKey scheme modulus exponent && signature.length = size && natOfBytes signature < modulus
      && bytesOfNat size (Residue.pow modulus (natOfBytes signature) exponent)
        = encoding scheme size message
  | none => false

end SecondFactor.Signature.Rsa
