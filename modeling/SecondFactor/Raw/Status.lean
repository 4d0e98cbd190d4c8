import SecondFactor.Failure

/-!
The status words that end every response APDU, and which of them reports a failure.
-/

namespace SecondFactor.Raw

inductive StatusWord where
  | noError
  | conditionsNotSatisfied
  | wrongData
  | wrongLength
  | classNotSupported
  | instructionNotSupported
deriving DecidableEq, Repr

namespace StatusWord

def code : StatusWord → Nat
  | .noError => 0x9000
  | .conditionsNotSatisfied => 0x6985
  | .wrongData => 0x6A80
  | .wrongLength => 0x6700
  | .classNotSupported => 0x6E00
  | .instructionNotSupported => 0x6D00

def all : List StatusWord :=
  [.noError, .conditionsNotSatisfied, .wrongData, .wrongLength, .classNotSupported,
    .instructionNotSupported]

def ofCode? (code : Nat) : Option StatusWord :=
  all.find? fun status => status.code = code

theorem ofCode?_code (status : StatusWord) : ofCode? status.code = some status := by
  cases status <;> rfl

def bytes (status : StatusWord) : Bytes :=
  bytesOfNat 2 status.code

theorem natOfBytes_bytes (status : StatusWord) : natOfBytes status.bytes = status.code := by
  cases status <;> rfl

/-- The last two bytes of an answer tell its status. -/
theorem bytes_injective {s t : StatusWord} (h : s.bytes = t.bytes) : s = t := by
  have hcode := congrArg natOfBytes h
  rw [natOfBytes_bytes, natOfBytes_bytes] at hcode
  have hstatus := ofCode?_code s
  rw [hcode, ofCode?_code] at hstatus
  exact (Option.some.inj hstatus).symm

/-- A missing or untested user is reported as an unsatisfied condition, a message of the wrong
length as such, and everything else as wrong data. -/
def ofFailure : Failure → StatusWord
  | .presenceDenied | .presenceTestRequired => .conditionsNotSatisfied
  | .format .truncated | .format .trailingData | .format (.keyHandleTooLong _) => .wrongLength
  | _ => .wrongData

end StatusWord

end SecondFactor.Raw
