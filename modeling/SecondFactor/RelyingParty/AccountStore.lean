import SecondFactor.Failure
import SecondFactor.Table
import SecondFactor.Tape
import SecondFactor.Web.Account

/-!
The sessions that wait for an answer, each under its id, and the keys of every account in the order
of their enrolment.
-/

namespace SecondFactor

structure AccountStore where
  sessions : Table String Web.Session
  keyLists : Table String (List Web.Enrolment)

namespace AccountStore

def empty : AccountStore := ⟨.empty, .empty⟩

def session? (store : AccountStore) (id : String) : Option Web.Session :=
  store.sessions.get? id

def pending (store : AccountStore) : Nat :=
  store.sessions.size

/-- The text of a session id. -/
def idOf (block : Block 16) : String :=
  Base64.encode .websafe block.val

/-- An id that no session has, drawn from a tape. -/
def drawId (store : AccountStore) (tape : Tape) : Option (String × Tape) :=
  tape.drawFirst 16 fun block =>
    if store.sessions.contains (idOf block) then none else some (idOf block)

def openSession (store : AccountStore) (id : String) (session : Web.Session) : AccountStore :=
  { store with sessions := store.sessions.insert id session }

def closeSession (store : AccountStore) (id : String) : AccountStore :=
  { store with sessions := store.sessions.erase id }

def keys (store : AccountStore) (account : String) : List Web.Enrolment :=
  (store.keyLists.get? account).getD []

def setKeys (store : AccountStore) (account : String) (keys : List Web.Enrolment) :
    AccountStore :=
  { store with keyLists := store.keyLists.insert account keys }

def addKey (store : AccountStore) (account : String) (key : Web.Enrolment) : AccountStore :=
  store.setKeys account (store.keys account ++ [key])

def hasKey (store : AccountStore) (account : String) (publicKey : Bytes) : Bool :=
  (store.keys account).any fun key => key.publicKey = publicKey

/-- Removes every record of a public key. -/
def removeKey (store : AccountStore) (account : String) (publicKey : Bytes) : AccountStore :=
  if store.hasKey account publicKey then
    store.setKeys account ((store.keys account).filter fun key => key.publicKey ≠ publicKey)
  else store

/-- The first record of a public key with a new counter, and the list with that record in it. The
new counter has to be greater than the old one. -/
def raiseFirst (publicKey : Bytes) (counter : UInt32) :
    List Web.Enrolment → Except Failure (Web.Enrolment × List Web.Enrolment)
  | [] => .error .unknownKeyHandle
  | key :: rest =>
    if key.publicKey = publicKey then
      if key.counter < counter then
        .ok ({ key with counter }, { key with counter } :: rest)
      else .error (.counterRegression key.counter counter)
    else
      match raiseFirst publicKey counter rest with
      | .ok (raised, rest) => .ok (raised, key :: rest)
      | .error failure => .error failure

/-- Raises the counter of a key. Nothing changes on a failure. -/
def raiseCounter (store : AccountStore) (account : String) (publicKey : Bytes)
    (counter : UInt32) : Except Failure Web.Enrolment × AccountStore :=
  match raiseFirst publicKey counter (store.keys account) with
  | .ok (raised, keys) => (.ok raised, store.setKeys account keys)
  | .error failure => (.error failure, store)

theorem session?_openSession (store : AccountStore) (id other : String) (session : Web.Session) :
    (store.openSession id session).session? other =
      if other = id then some session else store.session? other :=
  store.sessions.get?_insert id other session

theorem session?_closeSession (store : AccountStore) (id other : String) :
    (store.closeSession id).session? other =
      if other = id then none else store.session? other :=
  store.sessions.get?_erase id other

theorem keys_setKeys (store : AccountStore) (account other : String)
    (keys : List Web.Enrolment) :
    (store.setKeys account keys).keys other =
      if other = account then keys else store.keys other := by
  simp only [AccountStore.keys, setKeys, Table.get?_insert]
  split <;> rfl

theorem keys_addKey (store : AccountStore) (account other : String) (key : Web.Enrolment) :
    (store.addKey account key).keys other =
      if other = account then store.keys account ++ [key] else store.keys other :=
  store.keys_setKeys account other _

theorem keys_removeKey (store : AccountStore) (account other : String) (publicKey : Bytes) :
    (store.removeKey account publicKey).keys other =
      if other = account then
        (store.keys account).filter fun key => key.publicKey ≠ publicKey
      else store.keys other := by
  unfold removeKey
  split
  · exact store.keys_setKeys account other _
  · rename_i habsent
    split
    · rename_i hother
      subst hother
      symm
      rw [List.filter_eq_self]
      intro key hkey
      simp only [hasKey, List.any_eq_true, not_exists, not_and] at habsent
      simpa using habsent key hkey
    · rfl

end AccountStore

end SecondFactor
