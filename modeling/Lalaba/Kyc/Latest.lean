import Lalaba.Foundation.Sorting
import Lalaba.Kyc.Badge

/-!
# The latest documents of a provider

The rule looks at the latest live document of every type that is required.  Which one
that is does not change with documents of other types, nor with a review; a submission
puts its own document in the place of those it replaces.
-/

namespace Lalaba.Kyc

open Foundation

/-! ## The latest document of a type -/

/-- What the rule looks at, besides whether a document was approved. -/
structure KycDocument.Alike (row row' : KycDocument) : Prop where
  documentType : row'.documentType = row.documentType
  governmentIdType : row'.governmentIdType = row.governmentIdType
  submittedAt : row'.submittedAt = row.submittedAt
  superseded : row'.status = .SUPERSEDED ↔ row.status = .SUPERSEDED

def addFirst (byType : List KycDocument) (document : KycDocument) :
    List KycDocument :=
  if byType.any fun other =>
      other.documentType == document.documentType then byType
  else byType ++ [document]

def KycDocument.claim (document : KycDocument) : Option GovernmentIdType :=
  if document.status = .SUPERSEDED then none
  else if document.documentType ∈ GOVERNMENT_ID_DOCUMENT_TYPES then
    document.governmentIdType
  else none

section

variable {documents documents' : List KycDocument} {type : KycDocumentType}

instance : IsTrans KycDocument
    fun first second => second.submittedAt ≤ first.submittedAt where
  trans _ _ _ first second := Nat.le_trans second first

instance : Std.Total
    fun first second : KycDocument =>
      second.submittedAt ≤ first.submittedAt where
  total first second := Nat.le_total second.submittedAt first.submittedAt

/-- The first documents among those of some types. -/
theorem filter_firstOfEachType (chosen : KycDocumentType → Bool) :
    (firstOfEachType documents).filter
        (fun document => chosen document.documentType) =
      firstOfEachType (documents.filter fun document => chosen document.documentType) := by
  have general : ∀ rest byType : List KycDocument,
      (rest.foldl addFirst byType).filter (fun document => chosen document.documentType) =
      (rest.filter fun document => chosen document.documentType).foldl
        addFirst (byType.filter fun document => chosen document.documentType) := by
    intro rest
    induction rest with
    | nil => exact fun _ => rfl
    | cons next rest induction =>
      intro byType
      rw [List.foldl_cons, induction, List.filter_cons]
      by_cases own : chosen next.documentType = true
      · have among : (byType.filter fun document =>
              chosen document.documentType).any (fun other =>
            other.documentType == next.documentType) =
          byType.any fun other =>
            other.documentType == next.documentType := by
          rw [Bool.eq_iff_iff, List.any_eq_true, List.any_eq_true]
          constructor
          · rintro ⟨other, member, same⟩
            exact ⟨other, (List.mem_filter.mp member).1, same⟩
          · rintro ⟨other, member, same⟩
            refine ⟨other, List.mem_filter.mpr ⟨member, ?_⟩, same⟩
            rw [eq_of_beq same]
            exact own
        rw [if_pos own, List.foldl_cons, addFirst, addFirst, among]
        split
        · rfl
        · rw [List.filter_append, List.filter_singleton, own]
          rfl
      · rw [if_neg own, addFirst]
        split
        · rfl
        · rw [List.filter_append, List.filter_singleton, Bool.eq_false_of_not_eq_true own]
          exact congrArg (List.foldl addFirst · _) (List.append_nil _)
  exact general documents []

theorem find?_firstOfEachType :
    (firstOfEachType documents).find?
        (fun document => document.documentType == type) =
      documents.find? fun document => document.documentType == type := by
  have general : ∀ rest byType : List KycDocument,
      (rest.foldl addFirst byType).find? (fun document => document.documentType == type) =
      (byType ++ rest).find? fun document =>
        document.documentType == type := by
    intro rest
    induction rest with
    | nil =>
      intro byType
      rw [List.append_nil]
      rfl
    | cons next rest induction =>
      intro byType
      rw [List.foldl_cons, induction, addFirst]
      split
      · rename_i listed
        rw [List.find?_append, List.find?_append, List.find?_cons]
        cases own : next.documentType == type with
        | false => rfl
        | true =>
          rcases List.any_eq_true.mp listed with ⟨other, member, same⟩
          rw [eq_of_beq own] at same
          have found : (byType.find? fun document =>
              document.documentType == type).isSome = true :=
            List.find?_isSome.mpr ⟨other, member, same⟩
          rcases Option.isSome_iff_exists.mp found with ⟨document, found⟩
          rw [found]
          rfl
      · rw [List.append_assoc, List.singleton_append]
  exact general documents []

theorem ofType_latest :
    ofType (latestDocumentsByType documents) type = (latestFirst (documents.filter fun document =>
        document.documentType == type)).head? := by
  rw [ofType, latestDocumentsByType, find?_firstOfEachType,
    ← List.head?_filter, latestFirst, latestFirst, filter_insertionSort]

theorem claimed_latest :
    claimedGovernmentIdType (latestDocumentsByType documents) =
      claimedGovernmentIdType (latestDocumentsByType (documents.filter fun document =>
          decide (document.documentType ∈ GOVERNMENT_ID_DOCUMENT_TYPES))) := by
  have cards : ∀ rest : List KycDocument,
      rest.findSome? KycDocument.claim = (rest.filter fun document =>
          decide (document.documentType ∈
            GOVERNMENT_ID_DOCUMENT_TYPES)).findSome? KycDocument.claim := by
    intro rest
    induction rest with
    | nil => rfl
    | cons next rest induction =>
      rw [List.findSome?_cons, induction, List.filter_cons]
      by_cases card : next.documentType ∈ GOVERNMENT_ID_DOCUMENT_TYPES
      · rw [if_pos (decide_eq_true card), List.findSome?_cons]
      · have unclaimed : next.claim = none := by
          rw [KycDocument.claim, if_neg card, ite_self]
        rw [if_neg (by simpa using card), unclaimed]
  have first : ∀ rest : List KycDocument, (firstOfEachType rest).filter (fun document =>
          decide (document.documentType ∈ GOVERNMENT_ID_DOCUMENT_TYPES)) =
        firstOfEachType (rest.filter fun document =>
          decide (document.documentType ∈ GOVERNMENT_ID_DOCUMENT_TYPES)) :=
    fun rest => filter_firstOfEachType
      fun type => decide (type ∈ GOVERNMENT_ID_DOCUMENT_TYPES)
  have claimed : ∀ rest : List KycDocument,
      claimedGovernmentIdType rest = rest.findSome? KycDocument.claim :=
    fun _ => rfl
  rw [claimed, cards, latestDocumentsByType, first, latestFirst, filter_insertionSort]
  rfl

theorem forall₂_firstOfEachType
    (pairs : List.Forall₂ KycDocument.Alike documents documents') :
    List.Forall₂ KycDocument.Alike (firstOfEachType documents) (firstOfEachType documents') := by
  have listed : ∀ {byType byType' : List KycDocument}
      {type : KycDocumentType},
      List.Forall₂ KycDocument.Alike byType byType' →
      (byType.any fun other => other.documentType == type) =
        byType'.any fun other => other.documentType == type := by
    intro byType byType' type pairs
    induction pairs with
    | nil => rfl
    | cons head _ induction =>
      rw [List.any_cons, List.any_cons, head.documentType, induction]
  have general : ∀ {rest rest' byType byType' : List KycDocument},
      List.Forall₂ KycDocument.Alike rest rest' →
      List.Forall₂ KycDocument.Alike byType byType' →
      List.Forall₂ KycDocument.Alike
        (rest.foldl addFirst byType) (rest'.foldl addFirst byType') := by
    intro rest rest' byType byType' rests firsts
    induction rests generalizing byType byType' with
    | nil => exact firsts
    | @cons next next' _ _ head tail induction =>
      rw [List.foldl_cons, List.foldl_cons]
      apply induction
      rw [addFirst, addFirst, listed firsts, head.documentType]
      split
      · exact firsts
      · exact List.rel_append firsts (.cons head .nil)
  exact general pairs .nil

theorem claimed_congr
    (pairs : List.Forall₂ KycDocument.Alike documents documents') :
    claimedGovernmentIdType (latestDocumentsByType documents') =
      claimedGovernmentIdType (latestDocumentsByType documents) := by
  have sorted : List.Forall₂ KycDocument.Alike (latestFirst documents)
      (latestFirst documents') := by
    refine forall₂_insertionSort ?_ pairs
    intro first second first' second' alike alike'
    rw [alike.submittedAt, alike'.submittedAt]
  have claim : ∀ {row row' : KycDocument}, row.Alike row' → row'.claim = row.claim := by
    intro row row' alike
    rw [KycDocument.claim, KycDocument.claim, alike.documentType, alike.governmentIdType]
    simp only [alike.superseded]
  have same : ∀ {rest rest' : List KycDocument},
      List.Forall₂ KycDocument.Alike rest rest' →
      rest'.findSome? KycDocument.claim = rest.findSome? KycDocument.claim := by
    intro rest rest' pairs
    induction pairs with
    | nil => rfl
    | cons head _ induction =>
      rw [List.findSome?_cons, List.findSome?_cons, claim head, induction]
  exact same (forall₂_firstOfEachType sorted)

end

/-! ## What the documents at hand would earn -/

namespace Store

def latest (providerId : ObjectId) (type : KycDocumentType)
    (store : Store) : Option ((_ : ObjectId) × KycDocument) :=
  (((store.find (KycDocument.isLive providerId)).filter fun entry =>
      entry.2.documentType == type).insertionSort fun first second =>
        second.2.submittedAt ≤ first.2.submittedAt).head?

def required (provider : ResolvedProvider) (store : Store) :
    List KycDocumentType :=
  requiredKycDocumentTypes provider.providerType
    (claimedGovernmentIdType (latestDocumentsByType (store.live provider.providerId)))

/--
The latest live document of every required type was approved, or is the one that is
being decided, and has not expired.
-/
def Supports (now : Instant) (provider : ResolvedProvider)
    (decided : Option ObjectId) (store : Store) : Prop :=
  ∀ type ∈ store.required provider, ∃ entry,
    store.latest provider.providerId type = some entry ∧
      (some entry.1 = decided ∨ entry.2.status = .APPROVED) ∧
      ∀ expiresAt, entry.2.expiresAt = some expiresAt → now < expiresAt

end Store

section

variable {store : Store} {provider : ResolvedProvider} {now : Instant}
  {providerId id : ObjectId} {type : KycDocumentType}
  {live : List KycDocument} {document : KycDocument}

theorem latest_row :
    ofType (latestDocumentsByType (store.live providerId)) type =
      (store.latest providerId type).map Sigma.snd := by
  rw [ofType_latest, Store.live, Store.latest, List.filter_map, latestFirst, ← List.head?_map]
  congr 1
  exact (List.map_insertionSort (fun first second : (_ : ObjectId) × KycDocument =>
      second.2.submittedAt ≤ first.2.submittedAt)
    (fun first second : KycDocument =>
      second.submittedAt ≤ first.submittedAt)
    Sigma.snd _ fun _ _ _ _ => Iff.rfl).symm

theorem satisfiesRequirement_iff :
    satisfiesRequirement now (some document) = true ↔
      document.status = .APPROVED ∧
        ∀ expiresAt, document.expiresAt = some expiresAt → now < expiresAt := by
  rw [satisfiesRequirement, Option.any_some, Bool.and_eq_true, beq_iff_eq, Bool.not_eq_true']
  refine and_congr_right fun _ => ?_
  cases document.expiresAt with
  | none | some => simp

theorem supports_iff :
    store.Supports now provider none ↔
      (verdict now provider.providerType (store.live provider.providerId)).status = .APPROVED := by
  rw [verdict_approved_iff_satisfied]
  refine forall_congr' fun type => imp_congr_right fun _ => ?_
  rw [latest_row]
  cases store.latest provider.providerId type with
  | none => simp [satisfiesRequirement]
  | some entry =>
    rw [Option.map_some, satisfiesRequirement_iff]
    constructor
    · rintro ⟨_, same, approved | approved, lasting⟩
      · cases approved
      · cases same
        exact ⟨approved, lasting⟩
    · rintro ⟨approved, lasting⟩
      exact ⟨entry, rfl, .inr approved, lasting⟩

theorem mem_required {providerType : KycProviderType}
    {governmentIdType : Option GovernmentIdType}
    (listed : type ∈ REQUIRED_KYC_DOCUMENT_TYPES providerType)
    (front : type ≠ .VALID_ID_BACK) :
    type ∈ requiredKycDocumentTypes providerType governmentIdType := by
  cases governmentIdType with
  | none => exact listed
  | some kind =>
    unfold requiredKycDocumentTypes
    dsimp only
    split
    · exact List.mem_filter.mpr ⟨listed, decide_eq_true front⟩
    · exact listed

theorem required_of_card {providerType : KycProviderType}
    {governmentIdType : Option GovernmentIdType}
    (allowed : type ∈ KYC_ALLOWED_DOCUMENT_TYPES providerType)
    (card : type ∈ GOVERNMENT_ID_DOCUMENT_TYPES) :
    type ∈ requiredKycDocumentTypes providerType governmentIdType := by
  rcases List.mem_pair.mp card with rfl | rfl
  · apply mem_required
    · revert allowed
      cases providerType <;> decide
    · decide
  · apply mem_required
    · revert allowed
      cases providerType <;> decide
    · decide

theorem ofType_submitted (other : type ≠ document.documentType) :
    ofType (latestDocumentsByType (document :: live.filter fun row =>
        row.documentType != document.documentType)) type =
      ofType (latestDocumentsByType live) type := by
  rw [ofType_latest, ofType_latest, List.filter_cons,
    if_neg (by simpa using other.symm), List.filter_filter]
  congr 2
  apply List.filter_congr
  intro row _
  by_cases same : row.documentType = type
  · simp [same, other]
  · simp [same]

/--
A new document that awaits its review supports nothing: the badge stands if its type is
not required and the other documents support it.
-/
theorem verdict_submitted {providerType : KycProviderType}
    (allowed : document.documentType ∈ KYC_ALLOWED_DOCUMENT_TYPES providerType)
    (waiting : document.status = .SUBMITTED) :
    (verdict now providerType (document :: live.filter fun row =>
        row.documentType != document.documentType)).status = .APPROVED ↔
      document.documentType ∉ requiredKycDocumentTypes providerType
          (claimedGovernmentIdType (latestDocumentsByType live)) ∧
        (verdict now providerType live).status = .APPROVED := by
  have own : ofType (latestDocumentsByType (document :: live.filter
      fun row => row.documentType != document.documentType))
        document.documentType = some document := by
    rw [ofType_latest, List.filter_cons, if_pos (beq_self_eq_true _), List.filter_filter]
    have none : live.filter (fun row =>
        (row.documentType == document.documentType) &&
          (row.documentType != document.documentType)) = [] := by
      rw [List.filter_eq_nil_iff]
      intro row _ both
      rcases Bool.and_eq_true_iff.mp both with ⟨same, other⟩
      exact bne_iff_ne.mp other (eq_of_beq same)
    rw [none]
    rfl
  have unsatisfied : satisfiesRequirement now (some document) ≠ true := by
    intro satisfied
    have approved := (satisfiesRequirement_iff.mp satisfied).1
    rw [waiting] at approved
    cases approved
  rw [verdict_approved_iff_satisfied, verdict_approved_iff_satisfied]
  by_cases card : document.documentType ∈ GOVERNMENT_ID_DOCUMENT_TYPES
  · constructor
    · intro all
      have satisfied := all _ (required_of_card allowed card)
      rw [own] at satisfied
      exact (unsatisfied satisfied).elim
    · rintro ⟨unrequired, _⟩
      exact (unrequired (required_of_card allowed card)).elim
  · have claimed : claimedGovernmentIdType (latestDocumentsByType
          (document :: live.filter fun row =>
            row.documentType != document.documentType)) =
        claimedGovernmentIdType (latestDocumentsByType live) := by
      rw [claimed_latest, @claimed_latest live,
        List.filter_cons, if_neg (by simpa using card), List.filter_filter]
      congr 2
      apply List.filter_congr
      intro row _
      by_cases same : row.documentType = document.documentType
      · simp [same, card]
      · simp [same]
    rw [claimed]
    constructor
    · intro all
      refine ⟨fun required => ?_, fun type required => ?_⟩
      · have satisfied := all _ required
        rw [own] at satisfied
        exact unsatisfied satisfied
      · by_cases same : type = document.documentType
        · subst same
          have satisfied := all _ required
          rw [own] at satisfied
          exact (unsatisfied satisfied).elim
        · rw [← ofType_submitted same]
          exact all type required
    · rintro ⟨unrequired, all⟩ type required
      rw [ofType_submitted fun same => unrequired (same ▸ required)]
      exact all type required

end

/-! ## What a handled document leaves -/

/-- One document changes, in nothing that the rule looks at but its status. -/
structure Store.Alters (store : Store) (id : ObjectId)
    (change : KycDocument → KycDocument) : Prop where
  alike : ∀ row, store.documents.lookup id = some row → row.Alike (change row)
  providerId : ∀ row, store.documents.lookup id = some row →
    (change row).providerId = row.providerId

def altered (id : ObjectId) (change : KycDocument → KycDocument) :
    ((_ : ObjectId) × KycDocument) → (_ : ObjectId) × KycDocument :=
  Sigma.map (fun key => key) fun key row =>
    if key ∈ [id] then change row else row

section

variable {store : Store} {id providerId : ObjectId}
  {change : KycDocument → KycDocument} {type : KycDocumentType}
  {provider : ResolvedProvider} {now : Instant} {values : KycDocument}
  {reviewerUid : Uid}

theorem altered_self {row : KycDocument} : altered id change ⟨id, row⟩ = ⟨id, change row⟩ := by
  rw [altered, Sigma.map, if_pos (List.mem_singleton_self id)]

theorem altered_of_ne {entry : (_ : ObjectId) × KycDocument}
    (elsewhere : entry.1 ≠ id) : altered id change entry = entry := by
  rw [altered, Sigma.map, if_neg (by simpa using elsewhere)]

theorem Store.Alters.entry (alters : store.Alters id change)
    {entry : (_ : ObjectId) × KycDocument}
    (member : entry ∈ store.documents.entries) :
    entry.2.Alike (altered id change entry).2 ∧
      (altered id change entry).2.providerId = entry.2.providerId := by
  by_cases here : entry.1 = id
  · rcases entry with ⟨_, row⟩
    dsimp only at here
    subst here
    have stored := AList.mem_lookup_iff.mpr member
    rw [altered_self]
    exact ⟨alters.alike row stored, alters.providerId row stored⟩
  · rw [altered_of_ne here]
    exact ⟨⟨rfl, rfl, rfl, Iff.rfl⟩, rfl⟩

theorem find_updateMany (alters : store.Alters id change) :
    (store.updateMany [id] change).find (KycDocument.isLive providerId) =
      (store.find (KycDocument.isLive providerId)).map (altered id change) := by
  rw [Store.find, Store.find, Store.updateMany, Snapshot.mapRows]
  change (store.documents.entries.map (altered id change)).filter _ = _
  rw [List.filter_map]
  congr 1
  apply List.filter_congr
  intro entry member
  rcases alters.entry member with ⟨alike, own⟩
  have same : ((altered id change entry).2.status != .SUPERSEDED) =
      (entry.2.status != .SUPERSEDED) := by
    rw [Bool.eq_iff_iff, bne_iff_ne, bne_iff_ne, ne_eq, ne_eq, alike.superseded]
  rw [Function.comp_apply, KycDocument.isLive, KycDocument.isLive, own, same]

theorem latest_updateMany (alters : store.Alters id change) :
    (store.updateMany [id] change).latest providerId type =
      (store.latest providerId type).map (altered id change) := by
  have entries : ∀ entry ∈ store.find (KycDocument.isLive providerId),
      entry.2.Alike (altered id change entry).2 :=
    fun entry member =>
      (alters.entry (List.mem_filter.mp member).1).1
  rw [Store.latest, Store.latest, find_updateMany alters, List.filter_map, ← List.head?_map]
  congr 1
  have same : ((store.find (KycDocument.isLive providerId)).filter
        ((fun entry : (_ : ObjectId) × KycDocument =>
          entry.2.documentType == type) ∘ altered id change)) =
      (store.find (KycDocument.isLive providerId)).filter
        fun entry => entry.2.documentType == type := by
    apply List.filter_congr
    intro entry member
    rw [Function.comp_apply, (entries entry member).documentType]
  rw [same]
  refine (List.map_insertionSort _ _ _ _ ?_).symm
  intro first listed second listed'
  rw [(entries first (List.mem_filter.mp listed).1).submittedAt,
    (entries second (List.mem_filter.mp listed').1).submittedAt]

theorem required_updateMany (alters : store.Alters id change) :
    (store.updateMany [id] change).required provider =
      store.required provider := by
  rw [Store.required, Store.required]
  congr 1
  apply claimed_congr
  rw [Store.live, Store.live, find_updateMany alters, List.map_map,
    List.forall₂_map_left_iff, List.forall₂_map_right_iff, List.forall₂_same]
  exact fun entry member =>
    (alters.entry (List.mem_filter.mp member).1).1

theorem stored_of_latest {entry : (_ : ObjectId) × KycDocument}
    (found : store.latest providerId type = some entry) :
    store.documents.lookup entry.1 = some entry.2 := by
  have member := (List.mem_insertionSort _).mp (List.mem_of_head? found)
  have listed := (List.mem_filter.mp member).1
  exact AList.mem_lookup_iff.mpr (List.mem_filter.mp listed).1

theorem supports_approved
    (stored : store.documents.lookup id = some values)
    (alters : store.Alters id change)
    (approves : (change values).status = .APPROVED)
    (lasts : (change values).expiresAt = values.expiresAt) :
    (store.updateMany [id] change).Supports now provider none ↔
      store.Supports now provider (some id) := by
  rw [Store.Supports, Store.Supports, required_updateMany alters]
  refine forall_congr' fun type => imp_congr_right fun _ => ?_
  rw [latest_updateMany alters]
  cases found : store.latest provider.providerId type with
  | none => simp
  | some entry =>
    have own := stored_of_latest found
    rcases entry with ⟨key, row⟩
    by_cases here : key = id
    · subst here
      cases stored.symm.trans own
      simp [altered_self, approves, lasts]
    · have elsewhere : altered id change ⟨key, row⟩ = ⟨key, row⟩ := altered_of_ne here
      simp [elsewhere, here]

theorem supports_rejected
    (stored : store.documents.lookup id = some values)
    (alters : store.Alters id change)
    (rejects : (change values).status ≠ .APPROVED)
    (waited : values.status ≠ .APPROVED) :
    (store.updateMany [id] change).Supports now provider none ↔
      store.Supports now provider none := by
  rw [Store.Supports, Store.Supports, required_updateMany alters]
  refine forall_congr' fun type => imp_congr_right fun _ => ?_
  rw [latest_updateMany alters]
  cases found : store.latest provider.providerId type with
  | none => simp
  | some entry =>
    have own := stored_of_latest found
    rcases entry with ⟨key, row⟩
    by_cases here : key = id
    · subst here
      cases stored.symm.trans own
      simp [altered_self, rejects, waited]
    · have elsewhere : altered id change ⟨key, row⟩ = ⟨key, row⟩ := altered_of_ne here
      simp [elsewhere]

variable {document : KycDocument}

theorem mem_previous {entry : (_ : ObjectId) × KycDocument}
    (member : entry ∈ store.documents.entries) :
    entry.1 ∈ store.previous providerId type ↔ entry.2.isLiveOf providerId type = true := by
  rw [Store.previous, List.mem_map]
  constructor
  · rintro ⟨other, listed, same⟩
    have found := (List.mem_insertionSort _).mp listed
    rcases List.mem_filter.mp found with ⟨member', live⟩
    have stored := AList.mem_lookup_iff.mpr member
    have stored' := AList.mem_lookup_iff.mpr member'
    rw [same, stored] at stored'
    rw [Option.some.inj stored']
    exact live
  · intro live
    exact ⟨entry, (List.mem_insertionSort _).mpr (List.mem_filter.mpr ⟨member, live⟩), rfl⟩

/-- A new document is live, and those of other types still are. -/
theorem live_submitted (unused : id ∉ store.documents)
    (own : document.providerId = providerId)
    (waiting : document.status = .SUBMITTED) {created : Store}
    (replaced : created = (store.insertDocument id document).updateMany
          (store.previous providerId document.documentType) KycDocument.superseded) :
    created.live providerId = document :: (store.live providerId).filter fun row =>
        row.documentType != document.documentType := by
  subst replaced
  have fresh : id ∉ store.previous providerId document.documentType := by
    intro listed
    rcases belongs_of_previous listed with ⟨row, stored, _⟩
    exact unused (AList.lookup_isSome.mp (stored ▸ rfl))
  have live : document.isLive providerId = true := by
    rw [KycDocument.isLive, own, waiting, beq_self_eq_true]
    rfl
  let replaces : ((_ : ObjectId) × KycDocument) →
      (_ : ObjectId) × KycDocument :=
    Sigma.map (fun key => key) fun key row =>
      if key ∈ store.previous providerId document.documentType then
        row.superseded
      else row
  have entries : ((store.insertDocument id document).updateMany
        (store.previous providerId document.documentType)
        KycDocument.superseded).documents.entries =
      ⟨id, document⟩ :: store.documents.entries.map replaces := by
    change (AList.insert id document store.documents).entries.map replaces = _
    rw [AList.entries_insert_of_notMem unused, List.map_cons]
    have same : replaces ⟨id, document⟩ = ⟨id, document⟩ := by
      dsimp only [replaces]
      rw [Sigma.map, if_neg fresh]
    rw [same]
  have kept : ∀ entry ∈ store.documents.entries,
      KycDocument.isLive providerId (replaces entry).2 =
          (KycDocument.isLive providerId entry.2 && entry.2.documentType != document.documentType) ∧
        (KycDocument.isLive providerId (replaces entry).2 = true → replaces entry = entry) := by
    intro entry member
    have listedIff :
        entry.1 ∈ store.previous providerId document.documentType ↔
          entry.2.isLiveOf providerId document.documentType = true :=
      mem_previous member
    dsimp only [replaces]
    rw [Sigma.map]
    split
    · rename_i listed
      rcases isLiveOf_iff.mp (listedIff.mp listed) with ⟨_, same, _⟩
      constructor
      · simp [KycDocument.isLive, KycDocument.superseded, same]
      · intro live
        simp [KycDocument.isLive, KycDocument.superseded] at live
    · rename_i unlisted
      constructor
      · have other : KycDocument.isLive providerId entry.2 = true →
            entry.2.documentType ≠ document.documentType := by
          intro live same
          refine unlisted (listedIff.mpr ?_)
          rw [KycDocument.isLiveOf, live, same, beq_self_eq_true]
          rfl
        cases lives : KycDocument.isLive providerId entry.2 with
        | false => rfl
        | true => exact (bne_iff_ne.mpr (other lives)).symm
      · exact fun _ => rfl
  have rest : ((store.documents.entries.map replaces).filter fun entry =>
        KycDocument.isLive providerId entry.2).map Sigma.snd =
      (store.live providerId).filter fun row =>
        row.documentType != document.documentType := by
    rw [List.filter_map, List.map_map, Store.live, Store.find, List.filter_map, List.filter_filter]
    have chosen : store.documents.entries.filter ((fun entry : (_ : ObjectId) × KycDocument =>
            KycDocument.isLive providerId entry.2) ∘ replaces) =
        store.documents.entries.filter fun entry =>
          ((fun row : KycDocument =>
              row.documentType != document.documentType) ∘ Sigma.snd)
            entry && KycDocument.isLive providerId entry.2 := by
      apply List.filter_congr
      intro entry member
      rw [Function.comp_apply, (kept entry member).1, Bool.and_comm]
      rfl
    rw [chosen]
    apply List.map_congr_left
    intro entry listed
    rcases List.mem_filter.mp listed with ⟨member, both⟩
    rcases Bool.and_eq_true_iff.mp both with ⟨other, lives⟩
    have stays : KycDocument.isLive providerId (replaces entry).2 = true := by
      rw [(kept entry member).1, lives, Bool.true_and]
      exact other
    rw [Function.comp_apply, (kept entry member).2 stays]
  have listed : (⟨id, document⟩ :: store.documents.entries.map
        replaces).filter (fun entry : (_ : ObjectId) × KycDocument =>
          KycDocument.isLive providerId entry.2) =
      ⟨id, document⟩ :: (store.documents.entries.map replaces).filter
        fun entry => KycDocument.isLive providerId entry.2 :=
    List.filter_cons_of_pos live
  rw [Store.live, Store.find, entries, listed, List.map_cons, rest]

end

end Lalaba.Kyc
