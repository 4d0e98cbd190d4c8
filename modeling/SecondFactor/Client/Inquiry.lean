import SecondFactor.Dialogue
import SecondFactor.Raw.Authentication
import SecondFactor.Raw.Registration
import SecondFactor.Web.Account
import SecondFactor.Web.Message

/-!
What a client asks: the relying party it acts for, and the token of its user.
-/

namespace SecondFactor.Client

inductive Inquiry where
  | requestRegistration (account appId : String)
  | submitRegistration (response : Web.RegisterResponse) (now : UInt64)
  | requestSignatures (account appId : String)
  | submitSignature (response : Web.SignResponse)
  | register (request : Raw.RegistrationRequest)
  | authenticate (request : Raw.AuthenticationRequest)

def Inquiry.Answer : Inquiry → Type
  | .requestRegistration .. => Except Failure Web.RegisterRequest
  | .submitRegistration .. => Except Failure Web.Enrolment
  | .requestSignatures .. => Except Failure (List Web.SignRequest)
  | .submitSignature _ => Except Failure Web.Enrolment
  | .register _ => Except Failure Raw.RegistrationResponse
  | .authenticate _ => Except Failure Raw.AuthenticationResponse

/-- What a client does until it has a result. -/
abbrev Talk := Dialogue Inquiry Inquiry.Answer

namespace Talk

def requestRegistration (account appId : String) : Talk Web.RegisterRequest :=
  .ask (.requestRegistration account appId) .ofExcept

def submitRegistration (response : Web.RegisterResponse) (now : UInt64) : Talk Web.Enrolment :=
  .ask (.submitRegistration response now) .ofExcept

def requestSignatures (account appId : String) : Talk (List Web.SignRequest) :=
  .ask (.requestSignatures account appId) .ofExcept

def submitSignature (response : Web.SignResponse) : Talk Web.Enrolment :=
  .ask (.submitSignature response) .ofExcept

def register (request : Raw.RegistrationRequest) : Talk Raw.RegistrationResponse :=
  .ask (.register request) .ofExcept

/-- A failure is given as a result, so that it can be looked at. -/
def authenticate (request : Raw.AuthenticationRequest) :
    Talk (Except Failure Raw.AuthenticationResponse) :=
  .ask (.authenticate request) .done

end Talk

end SecondFactor.Client
