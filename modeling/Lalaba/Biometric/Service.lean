import Lalaba.Common
import Lalaba.Foundation.Interleaving

/-!
# The biometric sign-in

A device asks for a challenge, signs it, and signs in with the signature.  The challenge
lies in a cache from which the sign-in reads it and then deletes it; the signature is
checked after that.  Every await is a step of its own.
-/

namespace Lalaba.Biometric

open Foundation

/-! ## Collections -/

/-- A device's key, as it is registered for an account. -/
structure BiometricCredential where
  uid : Uid
  publicKey : String
  disabled : Bool
  lastUsedAt : Option Instant := none

structure StoredChallenge where
  credentialId : ObjectId
  challenge : String
deriving DecidableEq

/-- A value of the cache, and when it is read no more. -/
structure CacheEntry where
  stored : StoredChallenge
  expiresAt : Instant

/-- A challenge, and the credential it was issued for. -/
structure Issued where
  challengeId : String
  credentialId : ObjectId
deriving DecidableEq

/-- A custom token that was returned. -/
structure BiometricSession extends Issued where
  uid : Uid

def CHALLENGE_TTL_MS : ℕ := 2 * 60 * 1000

/--
The credentials and the cache.  The ids that were drawn, the challenges that were
issued and the tokens that were returned are kept for the record: no call reads them.
-/
structure Store where
  credentials : Collection BiometricCredential
  cache : Collection CacheEntry
  drawn : List String := []
  issued : List Issued := []
  sessions : List BiometricSession := []

namespace Store

/-- `get` of the cache: a value that has expired is as good as none. -/
def get (challengeId : String) (now : Instant) (store : Store) :
    Option StoredChallenge :=
  ((store.cache.lookup challengeId).filter fun entry =>
    now < entry.expiresAt).map CacheEntry.stored

/-- `set` of the cache. -/
def set (challengeId : String) (stored : StoredChallenge) (now : Instant)
    (store : Store) : Store :=
  { store with
    cache := store.cache.insert challengeId { stored, expiresAt := now + CHALLENGE_TTL_MS }
    issued := { challengeId, credentialId := stored.credentialId } :: store.issued }

/-- `del` of the cache. -/
def del (challengeId : String) (store : Store) : Store :=
  { store with cache := store.cache.erase challengeId }

/-- `save` of a credential with the instant of its use. -/
def stamp (credentialId : ObjectId) (now : Instant) (store : Store) :
    Option Store :=
  (store.credentials.lookup credentialId).map fun credential =>
    { store with
      credentials := store.credentials.insert credentialId
        { credential with lastUsedAt := some now } }

def mint (issued : Issued) (uid : Uid) (store : Store) : Store :=
  { store with sessions := { issued with uid } :: store.sessions }

end Store

/-- What the service throws. -/
structure UnauthorizedException where
  message : String

def requireCredential (credentialId : ObjectId) (store : Store) :
    Except UnauthorizedException BiometricCredential :=
  match store.credentials.lookup credentialId with
  | none => .error { message := "Biometric login is not available." }
  | some credential =>
    if credential.disabled then
      .error { message := "Biometric login is not available." }
    else
      .ok credential

def requireChallenge (credentialId : ObjectId)
    (stored : Option StoredChallenge) :
    Except UnauthorizedException StoredChallenge :=
  match stored with
  | none =>
    .error { message := "Challenge expired or invalid. Try again." }
  | some stored =>
    if stored.credentialId = credentialId then
      .ok stored
    else
      .error { message := "Challenge expired or invalid. Try again." }

/-- A call, at the point where it waits. -/
inductive Call where
  /-- `requestChallenge`, about to read the credential. -/
  | request (credentialId : ObjectId)
  | set (challengeId : String) (stored : StoredChallenge)
  /-- `login`, about to read the challenge. -/
  | get (issued : Issued) (signature : String)
  | del (issued : Issued) (signature : String) (stored : Option StoredChallenge)
  | verify (issued : Issued) (signature : String) (stored : StoredChallenge)
  | confirm (issued : Issued) (uid : Uid)
  | stamp (issued : Issued) (uid : Uid)
  | mint (issued : Issued) (uid : Uid)

inductive Request where
  | requestChallenge (credentialId : ObjectId)
  | login (credentialId : ObjectId) (challengeId : String) (signature : String)

/-- The instant of a step, what is drawn in it, and whether Firebase answers. -/
structure Tick where
  now : Instant
  drawn : String := ""
  nonce : String := ""
  answers : Bool := true

def enter : Request → Store → Option Call
  | .requestChallenge credentialId, _ => some (.request credentialId)
  | .login credentialId challengeId signature, _ =>
    some (.get { challengeId, credentialId } signature)

/-- What a call does next; an id is never drawn twice. -/
def resume (verifySignature : String → String → String → Bool)
    (tick : Tick) : Call → Store → Option (Store × Option Call)
  | .request credentialId, store =>
    if tick.drawn ∈ store.drawn then none
    else
      match requireCredential credentialId store with
      | .error _ => some (store, none)
      | .ok _ =>
        some
          ({ store with drawn := tick.drawn :: store.drawn },
            some (.set tick.drawn { credentialId, challenge := tick.nonce }))
  | .set challengeId stored, store =>
    some (store.set challengeId stored tick.now, none)
  | .get issued signature, store =>
    some (store, some (.del issued signature (store.get issued.challengeId tick.now)))
  | .del issued signature stored, store =>
    match requireChallenge issued.credentialId stored with
    | .error _ => some (store.del issued.challengeId, none)
    | .ok stored =>
      some (store.del issued.challengeId, some (.verify issued signature stored))
  | .verify issued signature stored, store =>
    match requireCredential issued.credentialId store with
    | .error _ => some (store, none)
    | .ok credential =>
      if verifySignature credential.publicKey stored.challenge
          signature then
        some (store, some (.confirm issued credential.uid))
      else
        some (store, none)
  | .confirm issued uid, store =>
    some (store, if tick.answers then some (.stamp issued uid) else none)
  | .stamp issued uid, store =>
    match store.stamp issued.credentialId tick.now with
    | none => some (store, none)
    | some saved => some (saved, some (.mint issued uid))
  | .mint issued uid, store =>
    if tick.answers then some (store.mint issued uid, none)
    else some (store, none)

def biometric (verifySignature : String → String → String → Bool) :
    Service Store Call Request Tick where
  enter := enter
  resume := resume verifySignature

abbrev Calls : Type := Configuration Store Call

def Store.fresh (credentials : Collection BiometricCredential) : Store where
  credentials
  cache := ∅

end Lalaba.Biometric
