import SecondFactor.Dialogue
import SecondFactor.Surroundings
import SecondFactor.Token.KeyRing

/-!
What a token asks while it works: its user, its store, which may fail, and a source of keys.
-/

namespace SecondFactor.Token

inductive Inquiry where
  /-- Asks for the user's approval. The flags are what a signature then reports. -/
  | presence (approval : Approval) (application : Digest)
  | newKeyPair
  | keepKey (handle : Bytes) (key : TokenKey)
  | key (handle : Bytes)
  /-- Raises the counter, and gives its new value. -/
  | nextCounter
  | warn (warning : Warning)

def Inquiry.Answer : Inquiry → Type
  | .presence .. => Raw.Presence
  | .newKeyPair => KeyPair
  | .keepKey .. => Except Failure Unit
  | .key _ => Except Failure (Option TokenKey)
  | .nextCounter => Except Failure UInt32
  | .warn _ => Unit

/-- What a token does until it has a result. -/
abbrev Talk := Dialogue Inquiry Inquiry.Answer

namespace Talk

def presence (approval : Approval) (application : Digest) : Talk Raw.Presence :=
  .ask (.presence approval application) .done

def newKeyPair : Talk KeyPair :=
  .ask .newKeyPair .done

def keepKey (handle : Bytes) (key : TokenKey) : Talk Unit :=
  .ask (.keepKey handle key) .ofExcept

def key? (handle : Bytes) : Talk (Option TokenKey) :=
  .ask (.key handle) .ofExcept

def nextCounter : Talk UInt32 :=
  .ask .nextCounter .ofExcept

def warn (warning : Warning) : Talk Unit :=
  .ask (.warn warning) .done

end Talk

end SecondFactor.Token
