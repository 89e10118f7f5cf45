import Lalaba.Biometric.Service

/-!
# Single use

A challenge is to be used once.  A sign-in deletes it before anything is checked, but
does not ask whether it was there to delete: two that have read it may both go on.  As
long as whoever goes on has found the challenge in the cache when deleting it, one
token at most is returned for it.
-/

namespace Lalaba.Biometric

open Foundation
open Foundation.Configuration

/-- One token at most for a challenge, and for its own credential. -/
structure Store.SingleUse (store : Store) : Prop where
  once : ∀ challengeId, (store.sessions.filter fun session =>
    session.challengeId == challengeId).length ≤ 1
  own : ∀ session ∈ store.sessions, session.toIssued ∈ store.issued
  ids : (store.issued.map Issued.challengeId).Nodup

def consumes (configuration : Calls) : Move Request Tick → Bool
  | .enter _ => true
  | .resume index _ =>
    match configuration.calls[index]? with
    | some (some (.del issued _ stored)) =>
      !(requireChallenge issued.credentialId stored).toBool ||
        (configuration.store.cache.lookup issued.challengeId).isSome
    | _ => true

def Call.token : Call → Option String
  | .set challengeId _ => some challengeId
  | .verify issued _ _ => some issued.challengeId
  | .confirm issued _ => some issued.challengeId
  | .stamp issued _ => some issued.challengeId
  | .mint issued _ => some issued.challengeId
  | _ => none

/-- The challenge is issued, used up, and has led to no token. -/
structure Store.Spent (issued : Issued) (store : Store) : Prop where
  known : issued ∈ store.issued
  consumed : store.cache.lookup issued.challengeId = none
  tokenless : ∀ session ∈ store.sessions, session.challengeId ≠ issued.challengeId

/-- What is true of the store between any two steps. -/
structure Store.Good (store : Store) : Prop where
  ids : (store.issued.map Issued.challengeId).Nodup
  drawn : ∀ issued ∈ store.issued, issued.challengeId ∈ store.drawn
  cached : ∀ challengeId entry,
    store.cache.lookup challengeId = some entry →
      { challengeId, credentialId := entry.stored.credentialId } ∈ store.issued
  own : ∀ session ∈ store.sessions, session.toIssued ∈ store.issued
  consumed : ∀ session ∈ store.sessions, store.cache.lookup session.challengeId = none
  once : (store.sessions.map fun session => session.challengeId).Nodup

/-- What a call in flight counts on. -/
def Sound (store : Store) : Call → Prop
  | .request _ => True
  | .set challengeId _ =>
    challengeId ∈ store.drawn ∧ ∀ issued ∈ store.issued, issued.challengeId ≠ challengeId
  | .get _ _ => True
  | .del issued _ stored =>
    ∀ found, stored = some found →
      { challengeId := issued.challengeId
        credentialId := found.credentialId } ∈ store.issued
  | .verify issued _ _ => store.Spent issued
  | .confirm issued _ => store.Spent issued
  | .stamp issued _ => store.Spent issued
  | .mint issued _ => store.Spent issued

section

variable {store : Store} {issued : Issued} {challengeId : String}
  {stored : StoredChallenge} {now : Instant} {uid : Uid}

theorem Store.Good.singleUse (good : store.Good) : store.SingleUse where
  once := by
    intro challengeId
    have single := List.nodup_iff_count_le_one.mp good.once challengeId
    rw [List.count, List.countP_map] at single
    rw [← List.countP_eq_length_filter]
    exact single
  own := good.own
  ids := good.ids

theorem Store.Good.request (good : store.Good) (drawn : String) :
    { store with drawn := drawn :: store.drawn }.Good where
  ids := good.ids
  drawn := fun issued member =>
    List.mem_cons_of_mem _ (good.drawn issued member)
  cached := good.cached
  own := good.own
  consumed := good.consumed
  once := good.once

theorem Store.Good.set (good : store.Good)
    (drawn : challengeId ∈ store.drawn)
    (fresh : ∀ issued ∈ store.issued, issued.challengeId ≠ challengeId) :
    (store.set challengeId stored now).Good where
  ids := by
    rw [Store.set, List.map_cons, List.nodup_cons]
    constructor
    · intro member
      rcases List.mem_map.mp member with ⟨issued, known, same⟩
      exact fresh issued known same
    · exact good.ids
  drawn := by
    intro issued member
    rcases List.mem_cons.mp member with rfl | known
    · exact drawn
    · exact good.drawn issued known
  cached := by
    intro other entry found
    by_cases same : other = challengeId
    · subst same
      rw [Store.set, AList.lookup_insert] at found
      cases found
      exact List.mem_cons_self
    · rw [Store.set, AList.lookup_insert_ne same] at found
      exact List.mem_cons_of_mem _ (good.cached other entry found)
  own := fun session member =>
    List.mem_cons_of_mem _ (good.own session member)
  consumed := by
    intro session member
    have apart := fresh _ (good.own session member)
    exact (AList.lookup_insert_ne apart).trans (good.consumed session member)
  once := good.once

theorem lookup_del {other : String} {entry : CacheEntry}
    (found : (store.del challengeId).cache.lookup other = some entry) :
    store.cache.lookup other = some entry := by
  by_cases same : other = challengeId
  · subst same
    rw [Store.del, AList.lookup_erase] at found
    cases found
  · rw [Store.del, AList.lookup_erase_ne same] at found
    exact found

theorem lookup_del_of_none {other : String}
    (absent : store.cache.lookup other = none) :
    (store.del challengeId).cache.lookup other = none := by
  cases found : (store.del challengeId).cache.lookup other with
  | none => rfl
  | some entry =>
    rw [lookup_del found] at absent
    cases absent

theorem Store.Good.del (good : store.Good) : (store.del challengeId).Good where
  ids := good.ids
  drawn := good.drawn
  cached := fun other entry found =>
    good.cached other entry (lookup_del found)
  own := good.own
  consumed := fun session member =>
    lookup_del_of_none (good.consumed session member)
  once := good.once

theorem Store.Good.mint (good : store.Good) (spent : store.Spent issued) :
    (store.mint issued uid).Good where
  ids := good.ids
  drawn := good.drawn
  cached := good.cached
  own := by
    intro session member
    rcases List.mem_cons.mp member with rfl | old
    · exact spent.known
    · exact good.own session old
  consumed := by
    intro session member
    rcases List.mem_cons.mp member with rfl | old
    · exact spent.consumed
    · exact good.consumed session old
  once := by
    rw [Store.mint, List.map_cons, List.nodup_cons]
    constructor
    · intro member
      rcases List.mem_map.mp member with ⟨session, old, same⟩
      exact spent.tokenless session old same
    · exact good.once

theorem Store.Good.spent (good : store.Good)
    (known : issued ∈ store.issued)
    (present : (store.cache.lookup issued.challengeId).isSome = true) :
    (store.del issued.challengeId).Spent issued where
  known := known
  consumed := AList.lookup_erase _ _
  tokenless := by
    intro session member same
    rw [← same, good.consumed session member] at present
    cases present

/-! ### Other calls -/

variable {call : Call}

theorem Sound.request (sound : Sound store call) (drawn : String) :
    Sound { store with drawn := drawn :: store.drawn } call := by
  cases call with
  | set _ _ => exact ⟨List.mem_cons_of_mem _ sound.1, sound.2⟩
  | request | get => trivial
  | del _ _ _ => exact sound
  | verify | confirm | stamp | mint => exact ⟨sound.known, sound.consumed, sound.tokenless⟩

theorem Store.Spent.set (spent : store.Spent issued)
    (fresh : ∀ issued ∈ store.issued, issued.challengeId ≠ challengeId) :
    (store.set challengeId stored now).Spent issued where
  known := List.mem_cons_of_mem _ spent.known
  consumed := (AList.lookup_insert_ne (fresh issued spent.known)).trans spent.consumed
  tokenless := spent.tokenless

theorem Store.Spent.del (spent : store.Spent issued) : (store.del challengeId).Spent issued where
  known := spent.known
  consumed := lookup_del_of_none spent.consumed
  tokenless := spent.tokenless

theorem Store.Spent.mint {used : Issued} (spent : store.Spent issued)
    (apart : used.challengeId ≠ issued.challengeId) :
    (store.mint used uid).Spent issued where
  known := spent.known
  consumed := spent.consumed
  tokenless := by
    intro session member
    rcases List.mem_cons.mp member with rfl | old
    · exact apart
    · exact spent.tokenless session old

theorem Store.Spent.credentials (spent : store.Spent issued)
    (credentials : Collection BiometricCredential) :
    { store with credentials }.Spent issued where
  known := spent.known
  consumed := spent.consumed
  tokenless := spent.tokenless

theorem Sound.set (sound : Sound store call)
    (apart : call.token ≠ some challengeId)
    (fresh : ∀ issued ∈ store.issued, issued.challengeId ≠ challengeId) :
    Sound (store.set challengeId stored now) call := by
  cases call with
  | set other _ =>
    refine ⟨sound.1, ?_⟩
    intro issued member
    rcases List.mem_cons.mp member with rfl | known
    · exact fun same => apart (congrArg some same.symm)
    · exact sound.2 issued known
  | request | get => trivial
  | del _ _ _ =>
    exact fun found read => List.mem_cons_of_mem _ (sound found read)
  | verify | confirm | stamp | mint => exact Store.Spent.set sound fresh

theorem Sound.del (sound : Sound store call) : Sound (store.del challengeId) call := by
  cases call with
  | set | del => exact sound
  | request | get => trivial
  | verify | confirm | stamp | mint => exact Store.Spent.del sound

theorem Sound.mint (sound : Sound store call)
    (apart : call.token ≠ some issued.challengeId) :
    Sound (store.mint issued uid) call := by
  cases call with
  | set | del => exact sound
  | request | get => trivial
  | verify | confirm | stamp | mint =>
    exact Store.Spent.mint sound fun same =>
      apart (congrArg some same.symm)

theorem Sound.credentials (sound : Sound store call)
    (credentials : Collection BiometricCredential) :
    Sound { store with credentials } call := by
  cases call with
  | set | del => exact sound
  | request | get => trivial
  | verify | confirm | stamp | mint => exact Store.Spent.credentials sound credentials

end

def Call.holds : Call → Option Issued
  | .verify issued _ _ => some issued
  | .confirm issued _ => some issued
  | .stamp issued _ => some issued
  | .mint issued _ => some issued
  | _ => none

/-- What a call does when it runs on. -/
inductive Resumed (store : Store) : Call → Store → Option Call → Prop where
  | requested (credentialId : ObjectId) (drawn nonce : String)
      (fresh : drawn ∉ store.drawn) :
      Resumed store (.request credentialId)
        { store with drawn := drawn :: store.drawn }
        (some (.set drawn { credentialId, challenge := nonce }))
  | issued (challengeId : String) (stored : StoredChallenge)
      (now : Instant) :
      Resumed store (.set challengeId stored) (store.set challengeId stored now) none
  | got (issued : Issued) (signature : String) (now : Instant) :
      Resumed store (.get issued signature) store
        (some (.del issued signature (store.get issued.challengeId now)))
  | discarded (issued : Issued) (signature : String)
      (stored : Option StoredChallenge) :
      Resumed store (.del issued signature stored) (store.del issued.challengeId) none
  | consumed (issued : Issued) (signature : String)
      (stored : Option StoredChallenge) (found : StoredChallenge)
      (own : requireChallenge issued.credentialId stored = .ok found) :
      Resumed store (.del issued signature stored)
        (store.del issued.challengeId)
        (some (.verify issued signature found))
  | advanced (call call' : Call) (issued : Issued)
      (credentials : Collection BiometricCredential)
      (holds : call.holds = some issued)
      (holds' : call'.holds = some issued) :
      Resumed store call { store with credentials } (some call')
  | minted (issued : Issued) (uid : Uid) :
      Resumed store (.mint issued uid) (store.mint issued uid) none
  | stopped (call : Call) : Resumed store call store none

section

variable {verifySignature : String → String → String → Bool} {tick : Tick}
  {store after : Store} {call : Call} {next : Option Call}
  {issued : Issued}

theorem resumed_of_resume
    (resumes : resume verifySignature tick call store = some (after, next)) :
    Resumed store call after next := by
  cases call with
  | request credentialId =>
    unfold resume at resumes
    dsimp only at resumes
    split at resumes
    · cases resumes
    · rename_i fresh
      split at resumes
      · cases resumes
        exact .stopped _
      · cases resumes
        exact .requested _ _ _ fresh
  | set challengeId stored =>
    cases resumes
    exact .issued _ _ _
  | get issued signature =>
    cases resumes
    exact .got _ _ _
  | del issued signature stored =>
    unfold resume at resumes
    dsimp only at resumes
    split at resumes
    · cases resumes
      exact .discarded _ _ _
    · rename_i found own
      cases resumes
      exact .consumed _ _ _ _ own
  | verify issued signature stored =>
    unfold resume at resumes
    dsimp only at resumes
    split at resumes
    · cases resumes
      exact .stopped _
    · split at resumes
      · cases resumes
        exact .advanced _ _ issued store.credentials rfl rfl
      · cases resumes
        exact .stopped _
  | confirm issued uid =>
    unfold resume at resumes
    dsimp only at resumes
    split at resumes
    · cases resumes
      exact .advanced _ _ issued store.credentials rfl rfl
    · cases resumes
      exact .stopped _
  | stamp issued uid =>
    unfold resume at resumes
    dsimp only at resumes
    split at resumes
    · cases resumes
      exact .stopped _
    · rename_i saved stamped
      cases resumes
      rcases Option.map_eq_some_iff.mp stamped with ⟨credential, _, rfl⟩
      exact .advanced _ _ issued _ rfl rfl
  | mint issued uid =>
    unfold resume at resumes
    dsimp only at resumes
    split at resumes
    · cases resumes
      exact .minted _ _
    · cases resumes
      exact .stopped _

theorem sound_iff_spent (holds : call.holds = some issued) :
    Sound store call ↔ store.Spent issued := by
  cases call <;> cases holds <;> rfl

theorem token_of_holds (holds : call.holds = some issued) :
    call.token = some issued.challengeId := by
  cases call <;> cases holds <;> rfl

theorem requireChallenge_ok {credentialId : ObjectId}
    {stored : Option StoredChallenge} {found : StoredChallenge}
    (own : requireChallenge credentialId stored = .ok found) :
    stored = some found ∧ found.credentialId = credentialId := by
  unfold requireChallenge at own
  split at own
  · cases own
  · split at own
    · cases own
      exact ⟨rfl, by assumption⟩
    · cases own

theorem Store.Good.got (good : store.Good) {challengeId : String}
    {now : Instant} {found : StoredChallenge}
    (read : store.get challengeId now = some found) :
    { challengeId, credentialId := found.credentialId } ∈ store.issued := by
  rcases Option.map_eq_some_iff.mp read with ⟨entry, kept, rfl⟩
  exact good.cached _ _ (Option.filter_eq_some_iff.mp kept).1

end

/-! ## Interleavings -/

section

variable {verifySignature : String → String → String → Bool}
  {configuration after : Calls} {move : Move Request Tick}

variable {issued : Issued} {store : Store}

theorem present_of_consumes {index : ℕ} {tick : Tick} {signature : String}
    {stored : Option StoredChallenge} {found : StoredChallenge}
    (allowed : consumes configuration (.resume index tick) = true)
    (waits : configuration.Waits index (.del issued signature stored))
    (own : requireChallenge issued.credentialId stored = .ok found) :
    (configuration.store.cache.lookup issued.challengeId).isSome = true := by
  rw [consumes, waits] at allowed
  dsimp only at allowed
  rw [own] at allowed
  exact allowed

theorem known_of_own {signature : String} {stored : Option StoredChallenge}
    {found : StoredChallenge}
    (sound : Sound store (.del issued signature stored))
    (own : requireChallenge issued.credentialId stored = .ok found) :
    issued ∈ store.issued := by
  rcases requireChallenge_ok own with ⟨read, names⟩
  have known := sound found read
  rw [names] at known
  exact known

theorem obligations :
    (biometric verifySignature).Obligations
      (Configuration.Distinct Call.token)
      (fun configuration move => consumes configuration move = true)
      Store.Good Sound := by
  constructor
  · intro request store call _ enters
    cases request with
    | requestChallenge | login =>
      cases enters
      trivial
  · intro configuration index tick call store next _ allowed waits good sound resumes
    cases resumed_of_resume resumes with
    | requested credentialId drawn nonce fresh =>
      refine ⟨good.request drawn, ?_⟩
      rintro call' ⟨⟩
      refine ⟨List.mem_cons_self, ?_⟩
      intro issued member same
      exact fresh (same ▸ good.drawn issued member)
    | issued challengeId stored now =>
      exact ⟨good.set sound.1 sound.2, fun _ absent => by cases absent⟩
    | got issued signature now =>
      refine ⟨good, ?_⟩
      rintro call' ⟨⟩
      exact fun found read => good.got read
    | discarded issued signature stored =>
      exact ⟨good.del, fun _ absent => by cases absent⟩
    | consumed issued signature stored found own =>
      refine ⟨good.del, ?_⟩
      rintro call' ⟨⟩
      exact good.spent (known_of_own sound own) (present_of_consumes allowed waits own)
    | advanced _ call' issued credentials holds holds' =>
      refine ⟨⟨good.ids, good.drawn, good.cached, good.own, good.consumed, good.once⟩, ?_⟩
      rintro _ ⟨⟩
      exact (sound_iff_spent holds').mpr
        (((sound_iff_spent holds).mp sound).credentials credentials)
    | minted issued uid =>
      exact ⟨good.mint sound, fun _ absent => by cases absent⟩
    | stopped _ => exact ⟨good, fun _ absent => by cases absent⟩
  · intro configuration index tick call store next place other distinct _
      waits waits' elsewhere _ sound sound' resumes
    -- No other call has the token of this one.
    have apart : ∀ held, call.token = some held → other.token ≠ some held := by
      intro held holds holds'
      exact elsewhere (distinct place index other call held waits' waits holds' holds)
    cases resumed_of_resume resumes with
    | requested credentialId drawn nonce fresh => exact sound'.request drawn
    | issued challengeId stored now =>
      exact sound'.set (apart _ rfl) sound.2
    | got | stopped => exact sound'
    | discarded | consumed => exact sound'.del
    | advanced _ call' issued credentials holds holds' =>
      exact sound'.credentials credentials
    | minted issued uid => exact sound'.mint (apart _ rfl)

theorem token_known {call : Call} {held : String} (good : store.Good)
    (sound : Sound store call) (holds : call.token = some held) : held ∈ store.drawn := by
  cases call with
  | set _ _ =>
    cases holds
    exact sound.1
  | request | get | del => cases holds
  | verify | confirm | stamp | mint =>
    cases holds
    exact good.drawn _ sound.known

theorem token_ne_of_cached {call : Call} (sound : Sound store call)
    (known : issued ∈ store.issued)
    (present : (store.cache.lookup issued.challengeId).isSome = true) :
    call.token ≠ some issued.challengeId := by
  have unspent : ∀ {other : Issued}, store.Spent other →
      some other.challengeId ≠ some issued.challengeId := by
    intro other spent same
    rw [← Option.some.inj same, spent.consumed] at present
    cases present
  cases call with
  | set _ _ => exact fun same => sound.2 issued known (Option.some.inj same).symm
  | request | get | del => exact fun absent => by cases absent
  | verify | confirm | stamp | mint => exact unspent sound

/-- The invariant of all interleavings. -/
structure Safe (configuration : Calls) : Prop where
  sited : Service.Invariant Store.Good Sound configuration
  distinct : configuration.Distinct Call.token

theorem Safe.step (safe : Safe configuration)
    (allowed : consumes configuration move = true)
    (stepped : (biometric verifySignature).system.step move configuration = some after) :
    Safe after := by
  refine ⟨obligations.step safe.distinct safe.sited allowed stepped, ?_⟩
  have sound := safe.sited.sound
  cases Service.stepped_of_step stepped with
  | entered request call enters =>
    apply safe.distinct.entered
    cases request with
    | requestChallenge | login =>
      cases enters
      rfl
  | resumed index tick call store next waits resumes =>
    apply safe.distinct.resumed waits
    intro call' held follows holds
    cases resumed_of_resume resumes with
    | requested credentialId drawn nonce fresh =>
      cases follows
      cases holds
      right
      intro other call' waits' holds'
      exact fresh (token_known safe.sited.good (sound other call' waits') holds')
    | issued | discarded | minted | stopped => cases follows
    | got _ _ _ =>
      cases follows
      cases holds
    | consumed issued signature stored found own =>
      cases follows
      cases holds
      right
      intro other call' waits'
      exact token_ne_of_cached (sound other call' waits')
        (known_of_own (sound index _ waits) own)
        (present_of_consumes allowed waits own)
    | advanced _ call'' issued credentials holds₁ holds₂ =>
      cases follows
      rw [token_of_holds holds₂] at holds
      exact .inl ((token_of_holds holds₁).trans holds)

theorem good_fresh {credentials : Collection BiometricCredential} :
    (Store.fresh credentials).Good where
  ids := List.nodup_nil
  drawn := fun _ member => (List.not_mem_nil member).elim
  cached := by
    intro challengeId entry found
    cases (AList.lookup_empty challengeId).symm.trans found
  own := fun _ member => (List.not_mem_nil member).elim
  consumed := fun _ member => (List.not_mem_nil member).elim
  once := List.nodup_nil

/--
In a run in which every sign-in that goes on has found its challenge when deleting it,
a challenge leads to one token at most, and to none of another credential, whatever
signatures are presented.
-/
theorem challengesAreSingleUse
    {credentials : Collection BiometricCredential}
    (reached : (biometric verifySignature).system.Reaches
      (fun configuration move => consumes configuration move = true)
      (.start (.fresh credentials)) configuration) :
    configuration.store.SingleUse := by
  have safe : Safe configuration := by
    refine reached.invariant Safe ?_ ?_
    · exact
        ⟨Service.invariant_start good_fresh,
          fun _ _ _ _ _ waits => (not_waits_start waits).elim⟩
    · exact fun _ _ _ safe allowed stepped => safe.step allowed stepped
  exact safe.sited.good.singleUse

end

/-! ## Sample runs -/

namespace Sample

def verifySignature (publicKey challenge signature : String) : Bool :=
  signature == publicKey ++ challenge

def credentials : Collection BiometricCredential :=
  AList.insert "device" { uid := "customer", publicKey := "key", disabled := false } ∅

def issues : List (Move Request Tick) :=
  [.enter (.requestChallenge "device"),
    .resume 0 { now := 1, drawn := "challenge", nonce := "nonce" },
    .resume 0 { now := 2 }]

def signsIn (signature : String) : Move Request Tick :=
  .enter (.login "device" "challenge" signature)

def goesOn (index : ℕ) : Move Request Tick := .resume index { now := 3 }

def replayed : List (Move Request Tick) :=
  issues ++
    [signsIn "keynonce", signsIn "keynonce", goesOn 1, goesOn 1, goesOn 1,
      goesOn 1, goesOn 1, goesOn 1, goesOn 2, goesOn 2]

def overlapping : List (Move Request Tick) :=
  issues ++
    [signsIn "keynonce", signsIn "keynonce", goesOn 1, goesOn 2, goesOn 1,
      goesOn 1, goesOn 1, goesOn 1, goesOn 1, goesOn 2, goesOn 2, goesOn 2,
      goesOn 2, goesOn 2]

def seen (configuration : Calls) : Bool × List String :=
  (configuration.someCall fun _ => true,
    configuration.store.sessions.map fun session => session.challengeId)

end Sample

/-- A signature that is replayed later signs nobody in. -/
theorem challengesAreSingleUse_replayed :
    ∃ configuration : Calls,
      (biometric Sample.verifySignature).system.Reaches
          (fun configuration move => consumes configuration move = true)
          (.start (.fresh Sample.credentials)) configuration ∧
        configuration.store.sessions.map (fun session =>
          session.challengeId) = ["challenge"] ∧
        configuration.store.SingleUse := by
  have performed : (((biometric Sample.verifySignature).system.restrict (fun configuration move =>
            consumes configuration move = true)).perform Sample.replayed
        (.start (.fresh Sample.credentials))).map Sample.seen = some (false, ["challenge"]) := by
    decide +kernel
  rcases System.reaches_of_map_restrict performed with ⟨configuration, reached, seen⟩
  exact ⟨configuration, reached, (Prod.mk.inj seen).2, challengesAreSingleUse reached⟩

/-- A signature that is replayed at once signs in twice. -/
theorem challengeUsedTwice :
    ¬ ∀ (verifySignature : String → String → String → Bool)
        (credentials : Collection BiometricCredential)
        (configuration : Calls),
      (biometric verifySignature).system.Reaches (fun _ _ => True)
        (.start (.fresh credentials)) configuration →
      configuration.store.SingleUse := by
  intro always
  have performed :
      ((biometric Sample.verifySignature).system.perform Sample.overlapping
        (.start (.fresh Sample.credentials))).map Sample.seen =
          some (false, ["challenge", "challenge"]) := by
    decide +kernel
  rcases System.reaches_of_map performed with ⟨configuration, ran, seen⟩
  have single := (always Sample.verifySignature Sample.credentials
    configuration ran).once "challenge"
  rw [← List.countP_eq_length_filter] at single
  have twice := congrArg (List.count "challenge") (Prod.mk.inj seen).2
  rw [List.count, List.countP_map] at twice
  have twice : configuration.store.sessions.countP
      (fun session => session.challengeId == "challenge") = 2 := twice
  omega

end Lalaba.Biometric
