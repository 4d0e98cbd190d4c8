import SecondFactor.Suite

/-!
Random bytes, as a tape that is read from its start. What draws from it either gets its bytes and
the rest of the tape, or nothing when the tape is too short.
-/

namespace SecondFactor

abbrev Tape := Bytes

namespace Tape

/-- The next `n` bytes. -/
def draw (n : Nat) (tape : Tape) : Option (Block n × Tape) :=
  splitBlock? n tape

/-- Draws until `accept` takes a block. -/
def drawUntil (n : Nat) {α : Type} (accept : Block n → Option α) :
    Nat → Tape → Option (α × Tape)
  | 0, _ => none
  | attempts + 1, tape => do
    let (block, rest) ← draw n tape
    match accept block with
    | some value => return (value, rest)
    | none => drawUntil n accept attempts rest

/-- The first block of a tape that `accept` takes, and the rest of the tape. -/
def drawFirst (n : Nat) {α : Type} (accept : Block n → Option α) (tape : Tape) :
    Option (α × Tape) :=
  drawUntil n accept (tape.length + 1) tape

/-- A key pair, from the first 32 bytes that are a secret. -/
def drawKeyPair (suite : Suite) (tape : Tape) : Option (KeyPair × Tape) :=
  drawFirst 32 (fun block => suite.keyPair? (natOfBytes block.val)) tape

/-- Some given bytes, then the digests of the numbers from zero on, each in eight bytes. -/
def seeded (suite : Suite) (given : Bytes) (count : Nat) : Tape :=
  given ++ (List.range count).flatMap fun index => (suite.digest (bytesOfNat 8 index)).val

/-- The first 32 bytes of given ones and the digest of zero. -/
def firstDigest (suite : Suite) (given : Bytes) : Digest :=
  ⟨(seeded suite given 1).take 32, by
    have hdigest := (suite.digest (bytesOfNat 8 0)).property
    simp [seeded, hdigest]⟩

end Tape

end SecondFactor
