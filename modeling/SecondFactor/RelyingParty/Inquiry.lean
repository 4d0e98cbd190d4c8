import SecondFactor.Dialogue
import SecondFactor.Warning
import SecondFactor.Web.Account

/-!
What a relying party asks while it works: its store, which may fail, and the source of its
challenges.
-/

namespace SecondFactor.RelyingParty

inductive Inquiry where
  /-- Keeps a session under a new id, and gives the id. -/
  | storeSession (session : Web.Session)
  /-- Looks at a session. -/
  | session (id : String)
  /-- Removes a session, and gives it to whoever comes first. -/
  | takeSession (id : String)
  | addKey (account : String) (key : Web.Enrolment)
  /-- All keys of an account, in the order of their enrolment. -/
  | keys (account : String)
  /-- Removes a key, and tells whether there was one. -/
  | removeKey (account : String) (publicKey : Bytes)
  /-- Raises the counter of a key, and gives the record with the new counter. -/
  | raiseCounter (account : String) (publicKey : Bytes) (counter : UInt32)
  | challenge (account : String)
  | warn (warning : Warning)

def Inquiry.Answer : Inquiry → Type
  | .storeSession _ => Except Failure String
  | .session _ | .takeSession _ => Except Failure (Option Web.Session)
  | .addKey .. => Except Failure Unit
  | .keys _ => Except Failure (List Web.Enrolment)
  | .removeKey .. => Except Failure Bool
  | .raiseCounter .. => Except Failure Web.Enrolment
  | .challenge _ => Bytes
  | .warn _ => Unit

/-- What a relying party does until it has a result. -/
abbrev Talk := Dialogue Inquiry Inquiry.Answer

namespace Talk

def storeSession (session : Web.Session) : Talk String :=
  .ask (.storeSession session) .ofExcept

def session? (id : String) : Talk (Option Web.Session) :=
  .ask (.session id) .ofExcept

def takeSession (id : String) : Talk (Option Web.Session) :=
  .ask (.takeSession id) .ofExcept

def addKey (account : String) (key : Web.Enrolment) : Talk Unit :=
  .ask (.addKey account key) .ofExcept

def keys (account : String) : Talk (List Web.Enrolment) :=
  .ask (.keys account) .ofExcept

def removeKey (account : String) (publicKey : Bytes) : Talk Bool :=
  .ask (.removeKey account publicKey) .ofExcept

/-- A failure is given as a result, so that it can be looked at. -/
def raiseCounter (account : String) (publicKey : Bytes) (counter : UInt32) :
    Talk (Except Failure Web.Enrolment) :=
  .ask (.raiseCounter account publicKey counter) .done

def challenge (account : String) : Talk Bytes :=
  .ask (.challenge account) .done

def warn (warning : Warning) : Talk Unit :=
  .ask (.warn warning) .done

end Talk

end SecondFactor.RelyingParty
