import SecondFactor.Rehearsal.World

/-!
How a rehearsal begins: a relying party without accounts, and tokens without keys.
-/

namespace SecondFactor.Rehearsal

structure TokenSetup where
  certificate : Bytes
  /-- The secret of the attestation. -/
  attestationSecret : Bytes
  /-- What key handles are derived from; a random value where it is not given. -/
  handleSecret : Option Digest
  sensor : Token.Sensor
  /-- The value the counter starts from, for a token with a store for itself. -/
  ownCounter : Option UInt32
  /-- The random bytes the token begins with. -/
  random : Bytes

structure Setup where
  /-- The pages whose origins are allowed. -/
  pages : List String
  trusted : List Bytes
  policy : TrustPolicy
  generator : Generator
  /-- The value the counter of the common store starts from. -/
  commonCounter : UInt32
  tokens : List TokenSetup

namespace TokenSetup

/-- The given secret, or the first random bytes. -/
def secret (suite : Suite) (setup : TokenSetup) : Digest :=
  setup.handleSecret.getD (Tape.firstDigest suite setup.random)

def player (suite : Suite) (setup : TokenSetup) : Except Failure Player := do
  let attestation ← Attestation.ofBytes suite setup.certificate setup.attestationSecret
  return ⟨⟨suite, attestation, setup.secret suite⟩, setup.sensor,
    setup.ownCounter.map KeyRing.ofCounter⟩

end TokenSetup

/-- The world before the first step, and the warnings of its set-up. -/
def Setup.world (suite : Suite) (setup : Setup) : Except Failure (World × List Warning) := do
  let (allowedOrigins, warnings) := RelyingParty.originsOf setup.pages
  let trusted ← setup.trusted.foldlM TrustAnchors.add TrustAnchors.empty
  let players ← setup.tokens.mapM (TokenSetup.player suite)
  let world : World := {
    party := ⟨suite, allowedOrigins, trusted, setup.policy⟩
    generator := setup.generator
    accounts := .empty
    players := players
    commonStore := .ofCounter setup.commonCounter
  }
  return (world, warnings)

end SecondFactor.Rehearsal
