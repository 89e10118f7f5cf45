import Lalaba.Chat.Service

/-!
# What a side has not read

The count of a side is reset before the page is read, and a message is inserted before
it is counted.  So a message that a page does not show yet is counted after the reset:
when no call is in progress, the count of a side is at least the number of messages
that it has not been shown.
-/

namespace Lalaba.Chat

open Foundation
open Foundation.Configuration
open Users (User)

/-! ## What a side has been shown -/

def Conversation.sideOf (conversation : Conversation) (uid : Uid) : Side :=
  if uid = conversation.customerUid then .customer else .provider

def MessageContent.writtenBy (side : Side) (conversation : Conversation)
    (content : MessageContent) : Bool :=
  content.senderRole != .SUPPORT && conversation.sideOf content.senderUid == side

abbrev Shown : Type := List (Side × ObjectId)

def Message.unseen (shown : Shown) (conversationId : ObjectId)
    (conversation : Conversation) (side : Side) (message : Message) : Bool :=
  message.conversationId == conversationId &&
    !message.writtenBy side conversation &&
    !shown.contains (side, message._id)

def Store.unseen (shown : Shown) (conversationId : ObjectId)
    (conversation : Conversation) (side : Side) (store : Store) : ℕ :=
  store.messages.countP (Message.unseen shown conversationId conversation side)

def Call.shows (store : Store) (shown : Shown) : Call → Shown
  | .page conversationId user =>
    match store.conversations.lookup conversationId with
    | none => shown
    | some conversation =>
      ((store.thread conversationId).map fun message =>
        (conversation.sideOf user._id, message._id)) ++ shown
  | _ => shown

def see (configuration : Calls) (move : Move Request Tick) (_ : Calls)
    (shown : Shown) : Shown :=
  match move with
  | .enter _ => shown
  | .resume index _ =>
    match configuration.calls[index]? with
    | some (some call) => call.shows configuration.store shown
    | _ => shown

def keepsRole (roleOf : Uid → String) : Move Request Tick → Bool
  | .enter (.messages _ user _) => roleIdOf user == roleOf user._id
  | .enter (.sendMessage user _ _) => roleIdOf user == roleOf user._id
  | _ => true

/--
Every conversation is one of a customer with somebody who is not: `startConversation`
and `startCourierConversation` open no other ones.
-/
def Store.Paired (roleOf : Uid → String) (store : Store) : Prop :=
  ∀ conversationId conversation,
    store.conversations.lookup conversationId = some conversation →
    roleOf conversation.customerUid = "customer" ∧ roleOf conversation.providerUid ≠ "customer"

inductive Resumed (tick : Tick) (store : Store) : Call → Store → Option Call → Prop where
  | reset (conversationId : ObjectId) (user : User) :
      Resumed tick store (.reset conversationId user)
        (store.update conversationId fun conversation =>
          conversation.reset (unreadField user))
        (some (.page conversationId user))
  | returned (conversationId : ObjectId) (user : User) :
      Resumed tick store (.page conversationId user) store none
  | refused (conversation : Conversation) (user : User)
      (input : SendMessageInput) :
      Resumed tick store (.ended conversation user input) store none
  | drafted (conversation : Conversation) (user : User)
      (input : SendMessageInput) (content : MessageContent)
      (summaryText : String)
      (drafts : messageOf user input = .ok (content, summaryText)) :
      Resumed tick store (.ended conversation user input) store
        (some (.create content summaryText fun side =>
          side == recipientUnread user))
  | created (content : MessageContent) (summaryText : String)
      (recipients : Side → Bool) :
      Resumed tick store (.create content summaryText recipients) { store with
          messages := store.messages ++ [{ content with _id := tick.id, createdAt := tick.now }] }
        (some (.bump content.conversationId summaryText tick.now recipients))
  | bumped (conversationId : ObjectId) (summaryText : String)
      (createdAt : Instant) (recipients : Side → Bool) :
      Resumed tick store
        (.bump conversationId summaryText createdAt recipients)
        (store.update conversationId (Conversation.bump summaryText createdAt recipients)) none

theorem resumed_of_resume {tick : Tick} {call : Call} {store after : Store}
    {next : Option Call}
    (resumes : resume tick call store = some (after, next)) :
    Resumed tick store call after next := by
  cases call with
  | reset conversationId user =>
    cases resumes
    exact .reset conversationId user
  | page conversationId user =>
    cases resumes
    exact .returned conversationId user
  | ended conversation user input =>
    unfold resume at resumes
    dsimp only at resumes
    split at resumes
    · cases resumes
      exact .refused conversation user input
    · cases drafts : messageOf user input with
      | error error =>
        rw [drafts] at resumes
        cases resumes
        exact .refused conversation user input
      | ok drafted =>
        rcases drafted with ⟨content, summaryText⟩
        rw [drafts] at resumes
        cases resumes
        exact .drafted conversation user input content summaryText drafts
  | create content summaryText recipients =>
    unfold resume at resumes
    dsimp only at resumes
    split at resumes
    · cases resumes
    · cases resumes
      exact .created content summaryText recipients
  | bump conversationId summaryText createdAt recipients =>
    cases resumes
    exact .bumped conversationId summaryText createdAt recipients

/-! ## The sides of a conversation -/

def Store.Fits (store : Store) (conversationId : ObjectId) (user : User) :
    Prop :=
  ∀ conversation,
    store.conversations.lookup conversationId = some conversation →
    unreadField user = conversation.sideOf user._id

def Sound (store : Store) : Call → Prop
  | .reset conversationId user => store.Fits conversationId user
  | .page conversationId user => store.Fits conversationId user
  | .ended _ user input => store.Fits input.conversationId user
  | .create content _ recipients => ∀ conversation,
      store.conversations.lookup content.conversationId = some conversation →
      ∀ side, content.writtenBy side conversation = false → recipients side = true
  | .bump _ _ _ _ => True

def Store.Follows (store after : Store) : Prop :=
  ∀ conversationId conversation',
    after.conversations.lookup conversationId = some conversation' →
    ∃ conversation,
      store.conversations.lookup conversationId = some conversation ∧
        conversation'.customerUid = conversation.customerUid ∧
        conversation'.providerUid = conversation.providerUid

section

variable {store after : Store} {conversationId other : ObjectId}
  {conversation conversation' : Conversation} {user : User}
  {change : Conversation → Conversation} {side : Side}
  {roleOf : Uid → String} {call : Call}

theorem sideOf_congr
    (same : conversation'.customerUid = conversation.customerUid) :
    conversation'.sideOf = conversation.sideOf := by
  funext uid
  rw [Conversation.sideOf, Conversation.sideOf, same]

theorem writtenBy_congr {content : MessageContent}
    (same : conversation'.customerUid = conversation.customerUid) :
    content.writtenBy side conversation' =
      content.writtenBy side conversation := by
  rw [MessageContent.writtenBy, MessageContent.writtenBy, sideOf_congr same]

theorem lookup_update_of_ne (elsewhere : other ≠ conversationId) :
    (store.update conversationId change).conversations.lookup other =
      store.conversations.lookup other := by
  rw [Store.update]
  split
  · rfl
  · exact AList.lookup_insert_ne elsewhere

theorem lookup_update
    (found : store.conversations.lookup conversationId = some conversation) :
    (store.update conversationId change).conversations.lookup
      conversationId = some (change conversation) := by
  rw [Store.update, found]
  exact AList.lookup_insert _

theorem of_lookup_update
    (found : (store.update conversationId change).conversations.lookup other = some conversation') :
    ∃ conversation, store.conversations.lookup other = some conversation ∧
      (other ≠ conversationId ∧ conversation' = conversation ∨
        other = conversationId ∧ conversation' = change conversation) := by
  by_cases same : other = conversationId
  · subst same
    cases stored : store.conversations.lookup other with
    | none =>
      rw [Store.update, stored] at found
      rw [stored] at found
      cases found
    | some conversation =>
      rw [lookup_update stored] at found
      cases found
      exact ⟨conversation, rfl, .inr ⟨rfl, rfl⟩⟩
  · rw [lookup_update_of_ne same] at found
    exact ⟨conversation', found, .inl ⟨same, rfl⟩⟩

@[simp]
theorem messages_update : (store.update conversationId change).messages = store.messages := by
  rw [Store.update]
  split <;> rfl

theorem Store.Follows.refl : store.Follows store :=
  fun _ conversation found => ⟨conversation, found, rfl, rfl⟩

theorem Store.follows_update
    (spares : ∀ conversation,
      (change conversation).customerUid = conversation.customerUid ∧
        (change conversation).providerUid = conversation.providerUid) :
    store.Follows (store.update conversationId change) := by
  intro other conversation' found
  rcases of_lookup_update found with ⟨conversation, stored, ⟨_, rfl⟩ | ⟨_, rfl⟩⟩
  · exact ⟨conversation', stored, rfl, rfl⟩
  · exact ⟨conversation, stored, spares conversation⟩

theorem Resumed.follows {tick : Tick} {next : Option Call}
    (resumed : Resumed tick store call after next) :
    store.Follows after := by
  cases resumed with
  | reset conversationId user =>
    apply Store.follows_update
    intro conversation
    cases unreadField user <;> exact ⟨rfl, rfl⟩
  | bumped conversationId summaryText createdAt recipients =>
    exact Store.follows_update fun _ => ⟨rfl, rfl⟩
  | returned | refused | drafted | created => exact .refl

theorem Store.Paired.follows (paired : store.Paired roleOf)
    (follows : store.Follows after) : after.Paired roleOf := by
  intro conversationId conversation' found
  rcases follows conversationId conversation' found with ⟨conversation, stored, customer, provider⟩
  rw [customer, provider]
  exact paired conversationId conversation stored

theorem Store.Fits.follows (fits : store.Fits conversationId user)
    (follows : store.Follows after) : after.Fits conversationId user := by
  intro conversation' found
  rcases follows conversationId conversation' found with ⟨conversation, stored, customer, _⟩
  rw [sideOf_congr customer]
  exact fits conversation stored

theorem Sound.follows (sound : Sound store call)
    (follows : store.Follows after) : Sound after call := by
  cases call with
  | reset | page | ended => exact Store.Fits.follows sound follows
  | create content summaryText recipients =>
    intro conversation' found side others
    rcases follows _ conversation' found with ⟨conversation, stored, customer, _⟩
    rw [writtenBy_congr customer] at others
    exact sound conversation stored side others
  | bump conversationId summaryText createdAt recipients => exact trivial

theorem fits_of_participant {activeBranchId : Option ObjectId}
    (paired : store.Paired roleOf)
    (role : roleIdOf user = roleOf user._id)
    (found : findParticipantConversation conversationId user activeBranchId
      store = .ok conversation) :
    store.Fits conversationId user := by
  intro stored same
  rw [findParticipantConversation, same] at found
  dsimp only at found
  split at found
  · rename_i participates
    rcases paired conversationId stored same with ⟨customer, provider⟩
    rw [Conversation.sideOf, unreadField, isCustomer, role]
    by_cases own : user._id = stored.customerUid
    · rw [own, customer]
      simp
    · rw [isParticipant, Bool.or_eq_true, beq_iff_eq, Bool.and_eq_true, beq_iff_eq] at participates
      have speaks : stored.providerUid = providerUidFor user :=
        (participates.resolve_left fun same => own same.symm).1
      have other : roleOf user._id ≠ "customer" := by
        intro isCustomer
        rw [providerUidFor, role, if_neg (by simp [isCustomer])] at speaks
        exact provider (speaks ▸ isCustomer)
      rw [if_neg own, if_neg (by simpa using other)]
  · cases found

end

/-! ## Counting -/

def Awaited (configuration : Calls) (conversationId : ObjectId)
    (conversation : Conversation) (side : Side) : Prop :=
  ∃ index user, configuration.Waits index (.page conversationId user) ∧
    conversation.sideOf user._id = side

def Call.owes (conversationId : ObjectId) (side : Side) : Call → Bool
  | .bump other _ _ recipients =>
    other == conversationId && recipients side
  | _ => false

/--
What the side has not been shown is counted or about to be, unless it is about to be
shown everything.
-/
def Covered (configuration : Calls) (shown : Shown)
    (conversationId : ObjectId) (conversation : Conversation)
    (side : Side) : Prop :=
  Awaited configuration conversationId conversation side ∨
    configuration.store.unseen shown conversationId conversation side ≤
      conversation.unread side + configuration.countCalls (Call.owes conversationId side)

section

variable {configuration : Calls} {conversationId other : ObjectId}
  {conversation conversation' : Conversation} {side : Side}
  {shown shown' : Shown} {store : Store} {index : ℕ} {call : Call}
  {next : Option Call} {user : User}

theorem unseen_congr
    (same : conversation'.customerUid = conversation.customerUid) :
    store.unseen shown conversationId conversation' side =
      store.unseen shown conversationId conversation side := by
  rw [Store.unseen, Store.unseen]
  congr 1
  funext message
  rw [Message.unseen, Message.unseen, writtenBy_congr same]

theorem unread_bump {summaryText : String} {createdAt : Instant}
    {recipients : Side → Bool} :
    (conversation.bump summaryText createdAt recipients).unread side =
      conversation.unread side + if recipients side then 1 else 0 := by
  cases side <;> rfl

theorem unread_reset_of_ne {field : Side} (elsewhere : field ≠ side) :
    (conversation.reset field).unread side = conversation.unread side := by
  cases field <;> cases side
  · exact (elsewhere rfl).elim
  · rfl
  · rfl
  · exact (elsewhere rfl).elim

theorem unseen_iff {message : Message} :
    message.unseen shown conversationId conversation side = true ↔
      message.conversationId = conversationId ∧
        message.writtenBy side conversation = false ∧
        (side, message._id) ∉ shown := by
  simp [Message.unseen, and_assoc]

theorem unseen_mono (more : shown ⊆ shown') :
    store.unseen shown' conversationId conversation side ≤
      store.unseen shown conversationId conversation side := by
  apply List.countP_mono_left
  intro message _ unseen
  rcases unseen_iff.mp unseen with ⟨here, others, unshown⟩
  exact unseen_iff.mpr ⟨here, others, fun member => unshown (more member)⟩

theorem unseen_eq_zero
    (all : ∀ message ∈ store.messages, message.conversationId = conversationId →
      (side, message._id) ∈ shown) :
    store.unseen shown conversationId conversation side = 0 := by
  rw [Store.unseen, List.countP_eq_zero]
  intro message member unseen
  rcases unseen_iff.mp unseen with ⟨here, _, unshown⟩
  exact unshown (all message member here)

theorem Awaited.resumed
    (awaited : Awaited configuration conversationId conversation side)
    (same : conversation'.customerUid = conversation.customerUid)
    (waits : configuration.Waits index call)
    (stays : ∀ user, call = .page conversationId user → conversation.sideOf user._id ≠ side) :
    Awaited (configuration.resumed index store next) conversationId
      conversation' side := by
  rcases awaited with ⟨place, user, waits', own⟩
  have elsewhere : place ≠ index := by
    intro here
    subst here
    exact stays user (waits.unique waits') own
  refine ⟨place, user, waits'.resumed elsewhere, ?_⟩
  rw [sideOf_congr same]
  exact own

/--
A step keeps a conversation covered if what becomes unseen with it is counted by then
or about to be.
-/
theorem Covered.resumed
    (covered : Covered configuration shown conversationId conversation side)
    (same : conversation'.customerUid = conversation.customerUid)
    (waits : configuration.Waits index call)
    (stays : ∀ user, call = .page conversationId user → conversation.sideOf user._id ≠ side)
    (grows : store.unseen shown' conversationId conversation side +
        (if call.owes conversationId side then 1 else 0) + conversation.unread side ≤
      configuration.store.unseen shown conversationId conversation side +
        (if next.any (Call.owes conversationId side) then 1 else 0) +
        conversation'.unread side) :
    Covered (configuration.resumed index store next) shown' conversationId conversation' side := by
  rcases covered with awaited | counted
  · exact .inl (awaited.resumed same waits stays)
  · refine .inr ?_
    have moved :
        (configuration.resumed index store next).countCalls
              (Call.owes conversationId side) +
            (if call.owes conversationId side then 1 else 0) =
          configuration.countCalls (Call.owes conversationId side) +
            if next.any (Call.owes conversationId side) then 1 else 0 :=
      countCalls_resumed waits
    have unseen :
        (configuration.resumed index store next).store.unseen shown'
            conversationId conversation' side =
          store.unseen shown' conversationId conversation side :=
      unseen_congr same
    omega

theorem Covered.entered
    (covered : Covered configuration shown conversationId conversation side) :
    Covered (configuration.entered call) shown conversationId conversation
      side := by
  rcases covered with ⟨index, user, waits, own⟩ | counted
  · exact .inl ⟨index, user, waits.entered, own⟩
  · refine .inr ?_
    rw [countCalls_entered]
    exact counted.trans (by omega)

end

/-- The invariant: the sides are told apart, and what is unseen is counted. -/
structure Tallied (roleOf : Uid → String) (both : Calls × Shown) : Prop where
  paired : both.1.store.Paired roleOf
  sound : ∀ index call, both.1.Waits index call → Sound both.1.store call
  covered : ∀ conversationId conversation side,
    both.1.store.conversations.lookup conversationId = some conversation →
    Covered both.1 both.2 conversationId conversation side

section

variable {roleOf : Uid → String} {configuration : Calls} {shown : Shown}
  {tick : Tick} {store after : Store} {call : Call} {next : Option Call}
  {index : ℕ}

theorem recipient_of_draft {user : User} {input : SendMessageInput}
    {content : MessageContent} {summaryText : String}
    (fits : store.Fits input.conversationId user)
    (drafts : messageOf user input = .ok (content, summaryText)) :
    Sound store (.create content summaryText fun side =>
        side == recipientUnread user) := by
  unfold messageOf at drafts
  dsimp only at drafts
  split at drafts
  · cases drafts
  · cases drafts
    intro conversation found side others
    have own := fits conversation found
    have role : senderRoleOf user ≠ .SUPPORT := by
      rw [senderRoleOf]
      split_ifs <;> exact fun same => by cases same
    have apart : conversation.sideOf user._id ≠ side := by
      simpa [MessageContent.writtenBy, role] using others
    rw [← own, unreadField] at apart
    rw [recipientUnread]
    cases customer : isCustomer user <;> cases side <;> simp_all

theorem Resumed.sound (resumed : Resumed tick store call after next)
    (sound : Sound store call) {call' : Call} (follows : next = some call') :
    Sound after call' := by
  cases resumed with
  | reset conversationId user =>
    cases follows
    exact Store.Fits.follows sound
      (Resumed.reset conversationId user : Resumed tick _ _ _ _).follows
  | returned | refused | bumped => cases follows
  | drafted conversation user input content summaryText drafts =>
    cases follows
    exact recipient_of_draft sound drafts
  | created content summaryText recipients =>
    cases follows
    exact trivial

theorem sound_enter {request : Request} (paired : store.Paired roleOf)
    (role : keepsRole roleOf (.enter request) = true)
    (enters : enter request store = some call) : Sound store call := by
  cases request with
  | messages conversationId user activeBranchId =>
    rw [keepsRole, beq_iff_eq] at role
    cases found : findParticipantConversation conversationId user activeBranchId store with
    | error error =>
      rw [enter, found] at enters
      cases enters
    | ok conversation =>
      have fits := fits_of_participant paired role found
      rw [enter, found, Option.some.injEq] at enters
      subst enters
      split <;> exact fits
  | sendMessage user input activeBranchId =>
    rw [keepsRole, beq_iff_eq] at role
    cases found : findParticipantConversation input.conversationId user none store with
    | error error =>
      rw [enter, found] at enters
      cases enters
    | ok conversation =>
      rw [enter, found] at enters
      cases enters
      exact fits_of_participant paired role found
  | adminSendMessage actor conversationId text =>
    rw [enter] at enters
    split at enters
    · cases enters
    · split at enters
      · cases enters
      · cases enters
        exact fun _ _ _ _ => rfl

theorem mem_thread {conversationId : ObjectId} {message : Message}
    (member : message ∈ store.messages)
    (here : message.conversationId = conversationId) :
    message ∈ store.thread conversationId := by
  rw [Store.thread, List.mem_insertionSort, List.mem_filter, beq_iff_eq]
  exact ⟨member, here⟩

theorem Resumed.covered
    (resumed : Resumed tick configuration.store call after next)
    (waits : configuration.Waits index call)
    (sound : Sound configuration.store call)
    (covered : ∀ conversationId conversation side,
      configuration.store.conversations.lookup conversationId = some conversation →
      Covered configuration shown conversationId conversation side)
    {conversationId : ObjectId} {conversation : Conversation} (side : Side)
    (found : after.conversations.lookup conversationId = some conversation) :
    Covered (configuration.resumed index after next)
      (call.shows configuration.store shown) conversationId conversation
      side := by
  cases resumed with
  | reset other user =>
    rcases of_lookup_update found with ⟨earlier, stored, ⟨elsewhere, rfl⟩ | ⟨rfl, rfl⟩⟩
    · refine (covered _ _ side stored).resumed rfl waits (fun _ same => by cases same) ?_
      simp [Call.owes, Call.shows, Store.unseen]
    · have same : (earlier.reset (unreadField user)).customerUid =
          earlier.customerUid := by
        cases unreadField user <;> rfl
      by_cases own : unreadField user = side
      · -- The page that is read next shows everything.
        refine .inl ⟨index, user, ?_, ?_⟩
        · exact (waits_resumed waits).mpr (.inr ⟨rfl, rfl⟩)
        · rw [sideOf_congr same, ← own]
          exact (sound earlier stored).symm
      · refine (covered _ _ side stored).resumed same waits (fun _ same => by cases same) ?_
        rw [unread_reset_of_ne own]
        simp [Call.owes, Call.shows, Store.unseen]
  | returned other user =>
    have shows : shown ⊆ (Call.page other user).shows configuration.store shown := by
      unfold Call.shows
      dsimp only
      split
      · exact List.Subset.refl _
      · exact List.subset_append_right _ _
    by_cases here : other = conversationId ∧ conversation.sideOf user._id = side
    · rcases here with ⟨rfl, rfl⟩
      refine .inr ((unseen_eq_zero ?_).le.trans (Nat.zero_le _))
      intro message member here
      unfold Call.shows
      dsimp only
      rw [found]
      exact List.mem_append_left _ (List.mem_map_of_mem (mem_thread member here))
    · refine (covered _ _ side found).resumed rfl waits ?_ ?_
      · intro reader same own
        cases same
        exact here ⟨rfl, own⟩
      · have fewer :
            configuration.store.unseen
                ((Call.page other user).shows configuration.store shown)
                conversationId conversation side ≤
              configuration.store.unseen shown conversationId
                conversation side :=
          unseen_mono shows
        simpa [Call.owes] using fewer
  | refused | drafted =>
    refine (covered _ _ side found).resumed rfl waits (fun _ same => by cases same) ?_
    simp [Call.owes, Call.shows]
  | created content summaryText recipients =>
    refine (covered _ _ side found).resumed rfl waits (fun _ same => by cases same) ?_
    rw [Store.unseen, List.countP_append, List.countP_singleton]
    have counted : (if Message.unseen shown conversationId conversation
            side { content with _id := tick.id, createdAt := tick.now }
          then 1 else 0) ≤
        if (Call.bump content.conversationId summaryText tick.now
          recipients).owes conversationId side then 1 else 0 := by
      split
      · rename_i unseen
        rcases unseen_iff.mp unseen with ⟨here, others, _⟩
        have here : content.conversationId = conversationId := here
        have counts := sound conversation (here ▸ found) side others
        rw [Call.owes, here, beq_self_eq_true, counts]
        exact Nat.le_refl 1
      · exact Nat.zero_le _
    have shows : (Call.create content summaryText recipients).shows
      configuration.store shown = shown := rfl
    have none : (Call.create content summaryText recipients).owes conversationId side = false := rfl
    rw [shows, none, Option.any_some, Store.unseen]
    simp only [Bool.false_eq_true, if_false] at counted ⊢
    omega
  | bumped other summaryText createdAt recipients =>
    rcases of_lookup_update found with ⟨earlier, stored, ⟨elsewhere, rfl⟩ | ⟨rfl, rfl⟩⟩
    · refine (covered _ _ side stored).resumed rfl waits (fun _ same => by cases same) ?_
      simp [Call.owes, Call.shows, Store.unseen, elsewhere.symm]
    · refine (covered _ _ side stored).resumed rfl waits (fun _ same => by cases same) ?_
      have shows : (Call.bump conversationId summaryText createdAt
        recipients).shows configuration.store shown = shown := rfl
      have owes : (Call.bump conversationId summaryText createdAt
          recipients).owes conversationId side = recipients side := by
        rw [Call.owes, beq_self_eq_true, Bool.true_and]
      rw [shows, owes, unread_bump, Store.unseen, messages_update, Store.unseen, Option.any_none]
      omega

theorem tallied_step {both both' : Calls × Shown}
    {move : Move Request Tick} (tallied : Tallied roleOf both)
    (role : keepsRole roleOf move = true)
    (stepped : (chat.system.observed see).step move both = some both') :
    Tallied roleOf both' := by
  rcases both' with ⟨after, shown⟩
  rcases System.observed_step stepped with ⟨stepped', seen⟩
  dsimp only at stepped' seen
  subst seen
  cases Service.stepped_of_step stepped' with
  | entered request call enters =>
    constructor
    · exact tallied.paired
    · intro index other waits
      rcases waits_entered.mp waits with old | ⟨_, rfl⟩
      · exact tallied.sound index other old
      · exact sound_enter tallied.paired role enters
    · intro conversationId conversation side found
      exact (tallied.covered conversationId conversation side found).entered
  | resumed index tick call store next waits resumes =>
    have resumed := resumed_of_resume resumes
    have follows := resumed.follows
    have sound := tallied.sound index call waits
    constructor
    · exact tallied.paired.follows follows
    · intro place other waits'
      rcases (waits_resumed waits).mp waits' with ⟨_, old⟩ | ⟨_, goes⟩
      · exact (tallied.sound place other old).follows follows
      · exact resumed.sound sound goes
    · intro conversationId conversation side found
      have shows : see both.1 (.resume index tick)
          (both.1.resumed index store next) both.2 = call.shows both.1.store both.2 := by
        have waits : both.1.calls[index]? = some (some call) := waits
        rw [see, waits]
      rw [shows]
      exact resumed.covered waits sound tallied.covered side found

end

namespace Sample

def account (uid roleId : String) : User where
  _id := uid
  role := some { roleId }
  isActive := true
  merchantId := none
  branchIds := []
  selfieStatus := none
  washerStatus := none
  sessionsValidAfter := none
  accountStatus := none

def customer : User := account "customer" "customer"

def merchant : User := account "merchant" "merchant"

def roleOf (uid : Uid) : String := uid

def conversation : Conversation where
  customerUid := "customer"
  providerUid := "merchant"
  branchId := "branch"

def store : Store where
  conversations := AList.insert "thread" conversation ∅
  messages := []

theorem eq_of_found {conversationId : ObjectId} {found : Conversation}
    (stored : store.conversations.lookup conversationId = some found) :
    found = conversation := by
  by_cases same : conversationId = "thread"
  · subst same
    cases (AList.lookup_insert _).symm.trans stored
    rfl
  · cases (AList.lookup_insert_ne same).symm.trans stored

theorem paired : store.Paired roleOf := by
  intro conversationId found stored
  rw [eq_of_found stored]
  decide

def reads : Move Request Tick := .enter (.messages "thread" customer none)

def writes : Move Request Tick :=
  .enter (.sendMessage merchant
    { conversationId := "thread", text := some "Ready", imageKey := none } none)

def joins : Move Request Tick :=
  .enter (.adminSendMessage (account "support" "support") "thread" "Hello")

def goesOn (index : ℕ) (id : ObjectId := "") : Move Request Tick :=
  .resume index { now := 9, id, order := none }

def seen (both : Calls × Shown) : Option ℕ × Option ℕ × Bool :=
  let stored := both.1.store.conversations.lookup "thread"
  (stored.map Conversation.customerUnread, stored.map Conversation.providerUnread,
    both.1.someCall fun _ => true)

end Sample

end Lalaba.Chat
