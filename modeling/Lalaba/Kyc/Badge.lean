import Lalaba.Kyc.Decisions

/-!
# The badge of a provider

The status of a provider is derived from its live documents after each submission and
each decision.  The documents are read in one step and the status is written in another,
so an older reading may be written last.  As long as a call that will read again is in
progress then, the status is in the end the one the rule gives.
-/

namespace Lalaba.Kyc

open Foundation
open Foundation.Configuration
open Foundation.Snapshot (mapRows lookup_mapRows)

namespace Store

def Shown (providerId : ObjectId) (store : Store) : Prop :=
  ∀ provider, store.providers.lookup providerId = some provider →
    ∀ now, provider.verificationStatus =
      (verdict now provider.providerType (store.live providerId)).status

def Unexpiring (providerId : ObjectId) (store : Store) : Prop :=
  ∀ id row, store.documents.lookup id = some row →
    row.providerId = providerId → row.expiresAt = none

def Belongs (store : Store) (id providerId : ObjectId) : Prop :=
  ∃ row, store.documents.lookup id = some row ∧ row.providerId = providerId

def Knows (store : Store) (provider : ResolvedProvider) : Prop :=
  ∃ row, store.providers.lookup provider.providerId = some row ∧
    row.providerType = provider.providerType

end Store

/-! ## What the calls know -/

/-- The documents and the provider a call writes to belong together. -/
def Sound (store : Store) : Call → Prop
  | .upload provider _ => store.Knows provider
  | .find provider _ _ => store.Knows provider
  | .create provider _ _ previous =>
    store.Knows provider ∧ ∀ id ∈ previous, store.Belongs id provider.providerId
  | .supersede provider previous =>
    store.Knows provider ∧ ∀ id ∈ previous, store.Belongs id provider.providerId
  | .load _ document _ =>
    store.Belongs document.id document.values.providerId
  | .save _ provider document _ =>
    store.Knows provider ∧ store.Belongs document.id provider.providerId
  | .recompute provider _ => store.Knows provider
  | .setProviderVerification provider _ _ _ => store.Knows provider
  | .findOpen _ _ _ => True
  | .claimCase _ _ => True
  | .findMine _ _ _ => True
  | .release _ => True

section

variable {store after : Store} {tick : Tick} {call other : Call}
  {next : Option Call} {id providerId : ObjectId} {row : KycDocument}
  {provider : ResolvedProvider} {request : Request}

theorem Resumed.evidence (resumed : Resumed tick store call after next)
    (stored : store.documents.lookup id = some row) :
    ∃ row', after.documents.lookup id = some row' ∧ row.SameEvidence row' := by
  have updated : ∀ {ids change},
      (∀ row, KycDocument.SameEvidence row (change row)) →
      ∃ row', (store.updateMany ids change).documents.lookup id = some row' ∧
        row.SameEvidence row' := by
    intro ids change keeps
    refine ⟨if id ∈ ids then change row else row, ?_, sameEvidence_update (keeps row)⟩
    rw [lookup_updateMany, stored]
    rfl
  cases resumed with
  | created provider submission storageObjectKey previous unused =>
    refine ⟨row, ?_, .refl⟩
    rw [lookup_insertDocument_of_ne, stored]
    rintro rfl
    exact unused (AList.lookup_isSome.mp (stored ▸ rfl))
  | superseded | caseClaimed | released => exact updated fun _ => ⟨rfl, rfl, rfl⟩
  | claimed | decided => exact updated fun _ => sameEvidence_saved
  | _ => exact ⟨row, stored, .refl⟩

theorem lookup_updateProvider {change : Provider → Provider} :
    (store.updateProvider id change).providers.lookup providerId =
      (store.providers.lookup providerId).map fun row =>
        if providerId = id then change row else row :=
  lookup_mapRows

theorem Store.Belongs.resumed (belongs : store.Belongs id providerId)
    (resumed : Resumed tick store call after next) :
    after.Belongs id providerId := by
  rcases belongs with ⟨row, stored, own⟩
  rcases resumed.evidence stored with ⟨row', stored', evidence⟩
  exact ⟨row', stored', evidence.providerId.trans own⟩

theorem Store.Knows.resumed (knows : store.Knows provider)
    (resumed : Resumed tick store call after next) :
    after.Knows provider := by
  cases resumed with
  | verified other reviewerUid readAt live =>
    rcases knows with ⟨row, stored, type⟩
    refine ⟨_, by rw [lookup_updateProvider, stored]; rfl, ?_⟩
    split
    · exact type
    · exact type
  | _ => exact knows

theorem Sound.resumed (sound : Sound store other)
    (resumed : Resumed tick store call after next) : Sound after other := by
  cases other with
  | upload | find | recompute | setProviderVerification => exact Store.Knows.resumed sound resumed
  | create | supersede =>
    exact ⟨sound.1.resumed resumed,
      fun id listed => (sound.2 id listed).resumed resumed⟩
  | load _ _ _ => exact Store.Belongs.resumed sound resumed
  | save _ _ _ _ =>
    exact ⟨sound.1.resumed resumed, sound.2.resumed resumed⟩
  | _ => trivial

variable {providerType : KycProviderType}

theorem knows_of_findProvider {row : Provider} {ownerUid : Uid}
    (found : store.findProvider providerType providerId = some row) :
    store.Knows { providerId, providerType, ownerUid } := by
  rcases Option.filter_eq_some_iff.mp found with ⟨stored, type⟩
  exact ⟨row, stored, of_decide_eq_true type⟩

theorem knows_of_loadProvider
    (loads : loadProvider providerType providerId store = .ok provider) :
    store.Knows provider ∧ provider.providerId = providerId := by
  unfold loadProvider at loads
  split at loads
  · rename_i row found
    cases loads
    exact ⟨knows_of_findProvider found, rfl⟩
  · split at loads <;> cases loads

theorem knows_of_resolveOwnedProvider {user : Uid} {named : Option ObjectId}
    (resolves : resolveOwnedProvider user providerType named store = .ok provider) :
    store.Knows provider := by
  cases providerType with
  | MERCHANT_BRANCH =>
    simp only [resolveOwnedProvider] at resolves
    split at resolves
    · cases resolves
    · split at resolves
      · cases resolves
      · rename_i branchId _ branch found
        split at resolves
        · cases resolves
        · cases resolves
          exact knows_of_findProvider found
  | WASHER =>
    simp only [resolveOwnedProvider] at resolves
    split at resolves
    · cases resolves
    · rename_i profileId profile found
      split at resolves
      · cases resolves
      · cases resolves
        refine ⟨profile, AList.mem_lookup_iff.mpr (List.mem_of_find?_eq_some found), ?_⟩
        have holds := List.find?_some found
        exact eq_of_beq (Bool.and_eq_true_iff.mp holds).1

theorem sound_of_startReview {reviewer : Uid} {documentId : ObjectId}
    {review : Review}
    (starts : startReview reviewer documentId review store = .ok call) :
    Sound store call := by
  rw [startReview] at starts
  split at starts
  · cases starts
  · rename_i values stored
    cases starts
    exact ⟨values, stored, rfl⟩

theorem sound_of_begin (begins : begin request store = .ok call) :
    Sound store call := by
  cases request with
  | submitDocument user input now =>
    simp only [begin] at begins
    split at begins
    · cases begins
    · rename_i provider resolves
      cases checks : checked now input with
      | error _ =>
        rw [checks] at begins
        cases begins
      | ok submission =>
        rw [checks] at begins
        cases begins
        exact knows_of_resolveOwnedProvider resolves
  | claimDocumentForReview | approveDocument => exact sound_of_startReview begins
  | rejectDocument reviewer documentId reasonCode note =>
    simp only [begin] at begins
    split at begins
    · cases begins
    · exact sound_of_startReview begins
  | claimCaseForReview reviewer providerType providerId =>
    simp only [begin] at begins
    split at begins
    · cases begins
    · split at begins
      · cases begins
      · cases begins
        trivial
  | releaseCase reviewer providerType providerId =>
    simp only [begin] at begins
    cases loads : loadProvider providerType providerId store with
    | error _ =>
      rw [loads] at begins
      cases begins
    | ok _ =>
      rw [loads] at begins
      cases begins
      trivial

theorem belongs_of_previous {documentType : KycDocumentType}
    (listed : id ∈ store.previous providerId documentType) :
    store.Belongs id providerId := by
  rcases List.mem_map.mp listed with ⟨⟨found, row⟩, sorted, rfl⟩
  have member := (List.mem_insertionSort _).mp sorted
  rcases List.mem_filter.mp member with ⟨stored, live⟩
  exact ⟨row, AList.mem_lookup_iff.mpr stored, (isLiveOf_iff.mp live).1⟩

theorem Resumed.sound (resumed : Resumed tick store call after next)
    (sound : Sound store call) {call' : Call}
    (follows : next = some call') : Sound after call' := by
  have knows : ∀ {provider : ResolvedProvider}, store.Knows provider →
      after.Knows provider :=
    fun known => known.resumed resumed
  have belongs : ∀ {id providerId : ObjectId},
      store.Belongs id providerId → after.Belongs id providerId :=
    fun owned => owned.resumed resumed
  cases resumed with
  | unanswered | refused | claimed | verified | openNone | caseClaimed
  | mineNone | released => cases follows
  | uploaded | recomputed =>
    cases follows
    exact sound
  | found provider submission storageObjectKey =>
    cases follows
    exact ⟨sound, fun id listed => belongs_of_previous listed⟩
  | created provider submission storageObjectKey previous unused =>
    cases follows
    split
    · exact knows sound.1
    · exact ⟨knows sound.1, fun id listed => belongs (sound.2 id listed)⟩
  | superseded | decided =>
    cases follows
    exact knows sound.1
  | loaded reviewerUid document review review' provider loads =>
    cases follows
    rcases knows_of_loadProvider loads with ⟨knows, same⟩
    exact ⟨knows, same ▸ sound⟩
  | openFound | mineFound =>
    cases follows
    trivial

theorem obligations : kyc.Obligations (fun _ => True) (fun _ _ => True) (fun _ => True) Sound where
  entered := by
    intro request store call _ enters
    rw [kyc] at enters
    dsimp only at enters
    cases begins : begin request store with
    | error _ =>
      rw [begins] at enters
      cases enters
    | ok started =>
      rw [begins] at enters
      cases enters
      exact sound_of_begin begins
  resumed := by
    intro configuration index tick call store next _ _ _ _ sound resumes
    exact ⟨trivial, fun call' follows =>
      (resumed_of_resume resumes).sound sound follows⟩
  stable := by
    intro configuration index tick call store next place other _ _ _ _ _ _ _ sound resumes
    exact sound.resumed (resumed_of_resume resumes)

end

section

variable {store : Store} {ids : List ObjectId} {id providerId : ObjectId}
  {row : KycDocument} {change : KycDocument → KycDocument}

theorem mem_live :
    row ∈ store.live providerId ↔
      ∃ id, store.documents.lookup id = some row ∧ row.isLive providerId = true := by
  rw [Store.live, List.mem_map]
  constructor
  · rintro ⟨⟨id, _⟩, found, rfl⟩
    rcases List.mem_filter.mp found with ⟨stored, live⟩
    exact ⟨id, AList.mem_lookup_iff.mpr stored, live⟩
  · rintro ⟨id, stored, live⟩
    exact ⟨⟨id, row⟩, List.mem_filter.mpr ⟨AList.mem_lookup_iff.mp stored, live⟩, rfl⟩

theorem live_updateMany
    (elsewhere : ∀ id ∈ ids, ∃ other, store.Belongs id other ∧ other ≠ providerId)
    (keeps : ∀ row, KycDocument.SameEvidence row (change row)) :
    (store.updateMany ids change).live providerId =
      store.live providerId := by
  have dark : ∀ entry ∈ store.documents.entries, entry.1 ∈ ids →
      KycDocument.isLive providerId entry.2 = false ∧
        KycDocument.isLive providerId (change entry.2) = false := by
    rintro ⟨id, row⟩ member listed
    rcases elsewhere id listed with ⟨other, ⟨row', stored, rfl⟩, apart⟩
    cases (AList.mem_lookup_iff.mpr member).symm.trans stored
    have moved : (change row).providerId ≠ providerId := (keeps row).providerId ▸ apart
    simp [KycDocument.isLive, apart, moved]
  rw [Store.live, Store.live, Store.find, Store.find, Store.updateMany,
    Snapshot.mapRows, List.filter_map, List.map_map]
  have same : store.documents.entries.filter
        (fun entry => KycDocument.isLive providerId
          (if entry.1 ∈ ids then change entry.2 else entry.2)) =
      store.documents.entries.filter fun entry =>
        KycDocument.isLive providerId entry.2 := by
    apply List.filter_congr
    intro entry member
    split
    · rename_i listed
      rw [(dark entry member listed).1, (dark entry member listed).2]
    · rfl
  change (store.documents.entries.filter fun entry =>
    KycDocument.isLive providerId (if entry.1 ∈ ids then change entry.2 else entry.2)).map _ = _
  rw [same]
  apply List.map_congr_left
  intro entry found
  rcases List.mem_filter.mp found with ⟨member, live⟩
  apply if_neg
  intro listed
  rw [(dark entry member listed).1] at live
  cases live

theorem live_insertDocument (unused : id ∉ store.documents)
    (elsewhere : row.providerId ≠ providerId) :
    (store.insertDocument id row).live providerId =
      store.live providerId := by
  rw [Store.live, Store.find, Store.insertDocument,
    AList.entries_insert_of_notMem unused, List.filter_cons_of_neg]
  · rfl
  · simp [KycDocument.isLive, elsewhere]

theorem Store.Unexpiring.verdict (unexpiring : store.Unexpiring providerId)
    {now later : Instant} {providerType : KycProviderType} :
    verdict now providerType (store.live providerId) =
      Kyc.verdict later providerType (store.live providerId) := by
  apply verdict_congr
  intro row listed
  rcases mem_live.mp listed with ⟨id, stored, live⟩
  exact unexpiring id row stored (eq_of_beq (Bool.and_eq_true_iff.mp live).1)

end

/-! ## Readings -/

/--
Will the call write the status the live documents have by then?  It has still to read
them, or the rule gives the same on what it has read.
-/
def Call.mends (providerId : ObjectId) (store : Store) : Call → Bool
  | .find provider _ _ => provider.providerId == providerId
  | .create provider _ _ _ => provider.providerId == providerId
  | .supersede provider _ => provider.providerId == providerId
  | .save _ provider _ review =>
    provider.providerId == providerId && review != .claimDocumentForReview
  | .recompute provider _ => provider.providerId == providerId
  | .setProviderVerification provider _ readAt live =>
    provider.providerId == providerId &&
      (verdict readAt provider.providerType live).status ==
        (verdict readAt provider.providerType (store.live providerId)).status
  | _ => false

def awaited (providerId : ObjectId) (configuration : Calls) : Bool :=
  configuration.someCall (Call.mends providerId configuration.store)

/--
A step after which the status is up to date, or will be: it is written from documents
on which the rule still gives the same, or another call has still to write it.  Claims
and releases, which derive no status, write nothing.
-/
def upToDate (providerId : ObjectId) (configuration : Calls) :
    Move Request Tick → Bool
  | .enter _ => true
  | .resume index _ =>
    match configuration.calls[index]? with
    | some (some (.setProviderVerification provider _ _ _)) =>
      provider.providerId != providerId || awaited providerId configuration
    | some (some (.save _ _ _ .claimDocumentForReview)) => false
    | some (some (.claimCase _ _)) => false
    | some (some (.release _)) => false
    | _ => true

/--
What a step does for a provider: the call goes on to write the status, or has written
it as it should be, or leaves the live documents and, unless it writes late, the status.
-/
inductive Settles (providerId : ObjectId) (store after : Store) (call : Call)
    (next : Option Call) : Prop where
  | goesOn (call' : Call) (follows : next = some call')
      (mends : call'.mends providerId after = true)
  | shows (shown : after.Shown providerId)
  | leaves (live : after.live providerId = store.live providerId)
      (idle : call.mends providerId store = false)
      (late : after.providers.lookup providerId = store.providers.lookup providerId ∨
        ∃ provider reviewerUid readAt live, call =
            .setProviderVerification provider reviewerUid readAt live ∧
          provider.providerId = providerId)

section

variable {configuration after : Calls} {move : Move Request Tick}
  {providerId : ObjectId} {tick : Tick} {call : Call}
  {store store' : Store} {next : Option Call}

theorem elsewhere_of_belongs {ids : List ObjectId} {other : ObjectId}
    (belongs : ∀ id ∈ ids, store.Belongs id other)
    (apart : other ≠ providerId) :
    ∀ id ∈ ids, ∃ other, store.Belongs id other ∧ other ≠ providerId :=
  fun id listed => ⟨other, belongs id listed, apart⟩

theorem Resumed.settles
    (resumed : Resumed tick store call store' next)
    (sound : Sound store call) (unexpiring : store.Unexpiring providerId)
    (derives : ∀ reviewerUid provider document,
      call ≠ .save reviewerUid provider document .claimDocumentForReview)
    (claims : ∀ reviewerUid found, call ≠ .claimCase reviewerUid found)
    (releases : ∀ mine, call ≠ .release mine) :
    Settles providerId store store' call next := by
  cases resumed with
  | unanswered | uploaded | refused | loaded | openNone | openFound
  | mineNone | mineFound => exact .leaves rfl rfl (.inl rfl)
  | found provider submission storageObjectKey =>
    by_cases own : provider.providerId = providerId
    · exact .goesOn _ rfl (beq_iff_eq.mpr own)
    · exact .leaves rfl (beq_eq_false_iff_ne.mpr own) (.inl rfl)
  | created provider submission storageObjectKey previous unused =>
    by_cases own : provider.providerId = providerId
    · refine .goesOn _ rfl ?_
      split
      · exact beq_iff_eq.mpr own
      · exact beq_iff_eq.mpr own
    · exact .leaves (live_insertDocument unused own) (beq_eq_false_iff_ne.mpr own) (.inl rfl)
  | superseded provider previous =>
    by_cases own : provider.providerId = providerId
    · exact .goesOn _ rfl (beq_iff_eq.mpr own)
    · refine .leaves ?_ (beq_eq_false_iff_ne.mpr own) (.inl rfl)
      exact live_updateMany (elsewhere_of_belongs sound.2 own)
        fun _ => ⟨rfl, rfl, rfl⟩
  | claimed reviewerUid provider document =>
    exact (derives reviewerUid provider document rfl).elim
  | decided reviewerUid provider document review grantor =>
    by_cases own : provider.providerId = providerId
    · exact .goesOn _ rfl (beq_iff_eq.mpr own)
    · refine .leaves ?_ ?_ (.inl rfl)
      · apply live_updateMany _ fun _ => sameEvidence_saved
        intro id listed
        cases List.mem_singleton.mp listed
        exact ⟨_, sound.2, own⟩
      · simp [Call.mends, own]
  | recomputed provider reviewerUid =>
    by_cases own : provider.providerId = providerId
    · subst own
      exact .goesOn _ rfl (by simp [Call.mends])
    · exact .leaves rfl (beq_eq_false_iff_ne.mpr own) (.inl rfl)
  | verified provider reviewerUid readAt live =>
    by_cases own : provider.providerId = providerId
    · subst own
      cases mends : Call.mends provider.providerId store
        (.setProviderVerification provider reviewerUid readAt live) with
      | false =>
        exact .leaves rfl mends (.inr ⟨_, _, _, _, rfl, rfl⟩)
      | true =>
        -- What is written is what the rule gives at any time.
        apply Settles.shows
        have current := eq_of_beq (Bool.and_eq_true_iff.mp mends).2
        rcases sound with ⟨row, stored, type⟩
        intro row' stored' now
        rw [lookup_updateProvider, stored] at stored'
        cases stored'
        dsimp only
        rw [if_pos rfl]
        change (verdict readAt provider.providerType live).status =
          (verdict now row.providerType (store.live provider.providerId)).status
        rw [current, type]
        exact congrArg Verdict.status unexpiring.verdict
    · refine .leaves rfl ?_ (.inl ?_)
      · simp [Call.mends, own]
      · rw [lookup_updateProvider]
        simp [Ne.symm own]
  | caseClaimed reviewerUid found =>
    exact (claims reviewerUid found rfl).elim
  | released mine => exact (releases mine rfl).elim

/--
The status is the one the rule gives, or a call that will write it is in progress, or a
document of the provider expires.
-/
def Settled (providerId : ObjectId) (configuration : Calls) : Prop :=
  configuration.store.Unexpiring providerId →
    awaited providerId configuration = true ∨ configuration.store.Shown providerId

theorem unexpiring_of_step
    (stepped : kyc.system.step move configuration = some after)
    (unexpiring : after.store.Unexpiring providerId) :
    configuration.store.Unexpiring providerId := by
  cases Service.stepped_of_step stepped with
  | entered request call enters => exact unexpiring
  | resumed index tick call store next waits resumes =>
    intro id row stored own
    rcases (resumed_of_resume resumes).evidence stored with ⟨row', stored', evidence⟩
    rw [← evidence.expiresAt]
    exact unexpiring id row' stored' (evidence.providerId.trans own)

theorem Store.Shown.congr (shown : store.Shown providerId)
    (live : store'.live providerId = store.live providerId)
    (provider : store'.providers.lookup providerId = store.providers.lookup providerId) :
    store'.Shown providerId := by
  intro row stored now
  rw [live]
  exact shown row (provider.symm.trans stored) now

theorem mends_congr (live : store'.live providerId = store.live providerId) :
    call.mends providerId store' = call.mends providerId store := by
  cases call <;> simp [Call.mends, live]

theorem Settled.step (settled : Settled providerId configuration)
    (known : ∀ index call, configuration.Waits index call → Sound configuration.store call)
    (allowed : upToDate providerId configuration move = true)
    (stepped : kyc.system.step move configuration = some after) :
    Settled providerId after := by
  intro unexpiring
  have before := unexpiring_of_step stepped unexpiring
  have settled := settled before
  cases Service.stepped_of_step stepped with
  | entered request call enters =>
    rcases settled with waiting | shown
    · exact .inl (someCall_entered waiting)
    · exact .inr shown
  | resumed index tick call store next waits resumes =>
    rw [upToDate, waits] at allowed
    have settles : Settles providerId configuration.store store call next := by
      apply (resumed_of_resume resumes).settles (known index call waits) before
      · rintro reviewerUid provider document rfl
        cases allowed
      · rintro reviewerUid found rfl
        cases allowed
      · rintro mine rfl
        cases allowed
    cases settles with
    | goesOn call' follows mends =>
      subst follows
      exact .inl (someCall_next waits mends)
    | shows shown => exact .inr shown
    | leaves live idle late =>
      have goesOn : awaited providerId configuration = true →
          awaited providerId (configuration.resumed index store next) =
            true := by
        intro waiting
        have same : Call.mends providerId store =
            Call.mends providerId configuration.store :=
          funext fun _ => mends_congr live
        rw [awaited]
        change Configuration.someCall (Call.mends providerId store) _ = true
        rw [same]
        apply someCall_resumed waits waiting
        intro mends
        rw [idle] at mends
        cases mends
      rcases settled with waiting | shown
      · exact .inl (goesOn waiting)
      · rcases late with same | ⟨_, _, _, _, rfl, own⟩
        · exact .inr (shown.congr live same)
        · rcases Bool.or_eq_true_iff.mp allowed with apart | waiting
          · exact (bne_iff_ne.mp apart own).elim
          · exact .inl (goesOn waiting)

/--
In a run of submissions and decisions in which the status is never left out of date, it
is the one the rule gives on the live documents whenever no call is in progress.
-/
theorem badgeShowsTheDocuments {start : Store} (providerId : ObjectId)
    (shown : start.Shown providerId)
    (reached : kyc.system.Reaches (fun configuration move =>
        upToDate providerId configuration move = true) (.start start) configuration)
    (quiet : configuration.Quiet)
    (unexpiring : configuration.store.Unexpiring providerId) :
    configuration.store.Shown providerId := by
  have known : ∀ configuration, kyc.system.Reaches (fun configuration move =>
        upToDate providerId configuration move = true)
      (.start start) configuration →
      Service.Invariant (fun _ => True) Sound configuration := by
    intro configuration reached
    refine reached.invariant (Service.Invariant (fun _ => True) Sound)
      (Service.invariant_start trivial) ?_
    exact fun _ _ _ invariant _ stepped =>
      obligations.step trivial invariant trivial stepped
  have settled : Settled providerId configuration := by
    apply reached.layered _ (Settled providerId) known
    · exact fun _ => .inr shown
    · exact fun _ _ _ known settled allowed stepped =>
        settled.step known.sound allowed stepped
  exact (settled unexpiring).resolve_left (not_someCall_of_quiet quiet)

end

def submitsOrDecides : Move Request Tick → Bool
  | .enter (.submitDocument _ _ _) => true
  | .enter (.approveDocument _ _) => true
  | .enter (.rejectDocument _ _ _ _) => true
  | .enter _ => false
  | .resume _ _ => true

namespace Sample

def rejection : List (Move Request Tick) :=
  [submits, goesOn 0 2, goesOn 0 3, inserts 0 4 "first", goesOn 0 5,
    goesOn 0 6, rejects "reviewer" "first", goesOn 1 7, goesOn 1 8,
    goesOn 1 9, submits, goesOn 2 10, goesOn 2 11, inserts 2 12 "second"]

def seen (configuration : Calls) : Option VerificationStatus × Bool × Bool :=
  ((configuration.store.providers.lookup "profile").map Provider.verificationStatus,
    configuration.someCall fun _ => true,
    configuration.store.documents.entries.all fun entry =>
      entry.2.expiresAt == none)

end Sample

theorem Sample.shown : Sample.store.Shown "profile" := by
  intro provider stored now
  cases stored
  exact (congrArg Verdict.status verdict_nil).symm

theorem Sample.unexpiring {configuration : Calls} {providerId : ObjectId}
    (all : (configuration.store.documents.entries.all fun entry =>
      entry.2.expiresAt == none) = true) :
    configuration.store.Unexpiring providerId := by
  intro id row stored _
  exact eq_of_beq (List.all_eq_true.mp all ⟨id, row⟩ (AList.mem_lookup_iff.mp stored))

/-- The rejection is written before the resubmission has read. -/
theorem badgeShowsTheDocuments_resubmission :
    ∃ configuration : Calls, configuration.Quiet ∧
      (configuration.store.providers.lookup "profile").map
        Provider.verificationStatus = some .PENDING ∧
      configuration.store.Shown "profile" := by
  have performed : ((kyc.system.restrict fun configuration move =>
          upToDate "profile" configuration move = true).perform
        (Sample.rejection ++ [Sample.goesOn 1 13, Sample.goesOn 2 14,
          Sample.goesOn 2 15, Sample.goesOn 2 16])
        (.start Sample.store)).map Sample.seen = some (some .PENDING, false, true) := by
    decide +kernel
  rcases System.reaches_of_map_restrict performed with ⟨configuration, ran, seen⟩
  rcases Prod.mk.inj seen with ⟨status, facts⟩
  rcases Prod.mk.inj facts with ⟨returned, lasting⟩
  have quiet := quiet_iff.mpr returned
  exact ⟨configuration, quiet, status,
    badgeShowsTheDocuments "profile" Sample.shown
      ran quiet
      (Sample.unexpiring lasting)⟩

/-- The rejection is written after the resubmission has cleared it. -/
theorem replacedDocumentBlocks :
    ¬ ∀ (start : Store) (providerId : ObjectId) (configuration : Calls),
      start.Shown providerId →
      kyc.system.Reaches (fun _ move => submitsOrDecides move = true) (.start start) configuration →
      configuration.Quiet → configuration.store.Unexpiring providerId →
      configuration.store.Shown providerId := by
  intro always
  have performed :
      ((kyc.system.restrict fun _ move => submitsOrDecides move = true).perform
        (Sample.rejection ++ [Sample.goesOn 2 13, Sample.goesOn 2 14,
          Sample.goesOn 2 15, Sample.goesOn 1 16]) (.start Sample.store)).map
          (fun configuration => (Sample.seen configuration,
            (verdict 17 .WASHER (configuration.store.live "profile")).status,
            (configuration.store.providers.lookup "profile").map Provider.providerType)) =
        some ((some .REJECTED, false, true), .PENDING, some .WASHER) := by
    decide +kernel
  rcases System.reaches_of_map_restrict performed with ⟨configuration, ran, seen⟩
  rcases Prod.mk.inj seen with ⟨shows, facts⟩
  rcases Prod.mk.inj facts with ⟨rule, typed⟩
  rcases Prod.mk.inj shows with ⟨status, facts⟩
  rcases Prod.mk.inj facts with ⟨returned, lasting⟩
  have shown := always Sample.store "profile" configuration Sample.shown
    ran (quiet_iff.mpr returned)
    (Sample.unexpiring lasting)
  rcases Option.map_eq_some_iff.mp status with ⟨provider, stored, rejected⟩
  have same := shown provider stored 17
  rw [stored] at typed
  rw [Option.some.inj typed, rule, rejected] at same
  cases same

end Lalaba.Kyc
