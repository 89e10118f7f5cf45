import Lalaba.Chat.Unread

/-!
# The gates of a conversation

Reading a thread, writing in it, attaching an image and looking at one each ask whether
the account is part of the conversation.  For staff the answer depends on the branch of
the device, and only two of the four hand it on: a staff member may read the threads of
the branch and upload images to them, but neither write nor see an image.
-/

namespace Lalaba.Chat

open Foundation
open Foundation.Configuration
open Orders (OnlineOrder)
open Users (User)

/-- The runtime's base64 decoder, and the links that the storage signs. -/
structure Runtime where
  fromBase64 : String → List UInt8
  getSignedReadUrl : String → String

/-- What is handed to the storage. -/
structure Upload where
  buffer : List UInt8
  key : String
  mimeType : String

def MAX_BYTES : ℕ := 8 * 1024 * 1024

def imageData (base64 : String) : String :=
  match base64.toList.splitOn ',' with
  | _ :: data :: _ => String.ofList data
  | _ => base64

def isBase64 (character : Char) : Bool := character.isAlphanum || ['+', '/', '='].contains character

def imageExtension : String → Option String
  | "image/jpeg" => some "jpg"
  | "image/png" => some "png"
  | "image/webp" => some "webp"
  | _ => none

/-- `uploadChatImage`, with the order that the thread names as it is stored. -/
def uploadChatImage (runtime : Runtime) (now : Instant)
    (order : Option OnlineOrder) (user : User) (conversationId : ObjectId)
    (base64 mimeType : String) (activeBranchId : Option ObjectId)
    (store : Store) : Except ServiceError Upload := do
  let conversation ← findParticipantConversation conversationId user activeBranchId store
  if isThreadEnded conversation user order then
    throw (.forbidden "This conversation has ended — this order is complete.")
  match imageExtension mimeType with
  | none => throw (.badRequest "Image must be a JPEG, PNG or WebP")
  | some extension =>
    let data := imageData base64
    if data = "" ∨ data.toList.all isBase64 = false then
      throw (.badRequest "No image was provided.")
    let buffer := runtime.fromBase64 data
    if MAX_BYTES < buffer.length then
      throw (.badRequest "Image is too large (max 8MB)")
    pure
      { buffer
        key := "chat/" ++ conversationId ++ "/" ++ user._id ++ "-" ++
          toString now ++ "." ++ extension
        mimeType }

/-- `resolveMessageImageUrl`; the branch of the device is not asked for. -/
def resolveMessageImageUrl (runtime : Runtime) (message : MessageContent)
    (user : User) (store : Store) : Option String :=
  match message.imageKey.filter (· ≠ "") with
  | none => none
  | some imageKey =>
    match findParticipantConversation message.conversationId user none store with
    | .error _ => none
    | .ok _ => some (runtime.getSignedReadUrl imageKey)

/-! ## Who is let through -/

section

variable (store : Store) (conversationId : ObjectId) (user : User)
  (activeBranchId : Option ObjectId)

/-- `messages` takes the account for a participant. -/
def MayRead : Prop := ∃ call, enter (.messages conversationId user activeBranchId) store = some call

/-- `sendMessage` takes the account for a participant. -/
def MayWrite : Prop :=
  ∀ text imageKey, ∃ call,
    enter (.sendMessage user { conversationId, text, imageKey } activeBranchId) store = some call

/-- `uploadChatImage` does not refuse the account as a stranger. -/
def MayUpload (runtime : Runtime) : Prop :=
  ∀ now order base64 mimeType,
    uploadChatImage runtime now order user conversationId base64 mimeType
        activeBranchId store ≠
      .error (.forbidden "You are not part of this conversation")

/-- `resolveMessageImageUrl` shows the account every image of the thread. -/
def MaySee (runtime : Runtime) : Prop :=
  ∀ message : MessageContent, message.conversationId = conversationId →
    ∀ imageKey, message.imageKey = some imageKey → imageKey ≠ "" →
      resolveMessageImageUrl runtime message user store = some (runtime.getSignedReadUrl imageKey)

/-- The gates take the same accounts for participants. -/
structure GatesAgree (runtime : Runtime) : Prop where
  upload : MayUpload store conversationId user activeBranchId runtime ↔
    MayRead store conversationId user activeBranchId
  write : MayWrite store conversationId user activeBranchId ↔
    MayRead store conversationId user activeBranchId
  see : MaySee store conversationId user runtime ↔ MayRead store conversationId user activeBranchId

/--
What the account writes, the order of the thread being this one, is signed as the
customer's by the customer only.
-/
def SignsAsItself (conversation : Conversation)
    (order : Option OnlineOrder) : Prop :=
  ∀ text imageKey call,
    enter (.sendMessage user { conversationId, text, imageKey } activeBranchId) store = some call →
    ∀ tick after content summaryText recipients, tick.order = order →
      resume tick call store =
          some (after, some (.create content summaryText recipients)) →
        content.senderRole = .CUSTOMER → content.senderUid = conversation.customerUid

end

def Conversation.answeredFor (conversation : Conversation) (user : User)
    (activeBranchId : Option ObjectId) : Bool :=
  roleIdOf user == "staff" && conversation.customerUid != user._id &&
    conversation.providerUid == providerUidFor user && activeBranchId.any fun branchId =>
        branchId != "" && user.branchIds.contains branchId && branchId == conversation.branchId

def Conversation.misplaced (conversation : Conversation) (user : User)
    (order : Option OnlineOrder) : Bool :=
  conversation.customerUid != user._id &&
    conversation.providerUid == user._id &&
      !(["merchant", "washer", "courier", "staff"].contains (roleIdOf user)) &&
        !isThreadEnded conversation user order

section

variable {store : Store} {conversationId : ObjectId}
  {conversation : Conversation} {user : User}
  {activeBranchId : Option ObjectId} {runtime : Runtime}

theorem findParticipantConversation_eq
    (found : store.conversations.lookup conversationId = some conversation) :
    findParticipantConversation conversationId user activeBranchId store =
      if isParticipant conversation user activeBranchId then
        .ok conversation
      else
        .error (.forbidden "You are not part of this conversation") := by
  rw [findParticipantConversation, found]

theorem mayRead_iff
    (found : store.conversations.lookup conversationId = some conversation) :
    MayRead store conversationId user activeBranchId ↔
      isParticipant conversation user activeBranchId = true := by
  unfold MayRead enter
  simp only [findParticipantConversation_eq found]
  cases isParticipant conversation user activeBranchId <;> simp

theorem mayWrite_iff
    (found : store.conversations.lookup conversationId = some conversation) :
    MayWrite store conversationId user activeBranchId ↔
      isParticipant conversation user none = true := by
  unfold MayWrite enter
  simp only [findParticipantConversation_eq found]
  cases isParticipant conversation user none <;> simp

theorem resolveMessageImageUrl_eq {message : MessageContent}
    {imageKey : String}
    (found : store.conversations.lookup message.conversationId = some conversation)
    (attached : message.imageKey = some imageKey) (named : imageKey ≠ "") :
    resolveMessageImageUrl runtime message user store =
      if isParticipant conversation user none then
        some (runtime.getSignedReadUrl imageKey)
      else
        none := by
  rw [resolveMessageImageUrl, attached, Option.filter_some,
    if_pos (decide_eq_true named), findParticipantConversation_eq found]
  cases isParticipant conversation user none <;> rfl

theorem maySee_iff
    (found : store.conversations.lookup conversationId = some conversation) :
    MaySee store conversationId user runtime ↔ isParticipant conversation user none = true := by
  constructor
  · intro sees
    have shown := sees
      { conversationId
        senderUid := ""
        senderRole := .CUSTOMER
        text := ""
        imageKey := some "image" } rfl "image" rfl (by decide)
    rw [resolveMessageImageUrl_eq found rfl (by decide)] at shown
    by_contra stranger
    rw [if_neg stranger] at shown
    cases shown
  · rintro participates message rfl imageKey attached named
    rw [resolveMessageImageUrl_eq found attached named, if_pos participates]

theorem mayUpload_iff
    (found : store.conversations.lookup conversationId = some conversation) :
    MayUpload store conversationId user activeBranchId runtime ↔
      isParticipant conversation user activeBranchId = true := by
  unfold MayUpload uploadChatImage
  rw [findParticipantConversation_eq found]
  cases isParticipant conversation user activeBranchId with
  | true =>
    simp only [iff_true]
    intro now order base64 mimeType refused
    simp only [if_true, bind, Except.bind, throw, throwThe,
      MonadExceptOf.throw, pure, Except.pure] at refused
    repeat' split at refused
    all_goals simp at refused
  | false =>
    simp only [Bool.false_eq_true, iff_false]
    intro uploads
    exact uploads 0 none "" "" rfl

theorem all_allowedBranchIds (staff : roleIdOf user = "staff") :
    ((allowedBranchIds user activeBranchId).all fun branches =>
        branches.contains conversation.branchId) =
      activeBranchId.any fun branchId =>
        branchId != "" && user.branchIds.contains branchId &&
          branchId == conversation.branchId := by
  rw [allowedBranchIds, if_neg (not_not_intro staff)]
  cases activeBranchId with
  | none => rfl
  | some branchId =>
    rw [Option.filter_some]
    by_cases named : branchId = ""
    · simp [named]
    · by_cases assigned : branchId ∈ user.branchIds
      · simp [bne_iff_ne.mpr named, named, assigned, beq_eq_decide, eq_comm]
      · simp [named, assigned]

theorem isParticipant_eq :
    isParticipant conversation user activeBranchId =
      (isParticipant conversation user none || conversation.answeredFor user activeBranchId) := by
  by_cases staff : roleIdOf user = "staff"
  · rw [isParticipant, isParticipant, all_allowedBranchIds staff,
      all_allowedBranchIds staff, Conversation.answeredFor, staff]
    cases own : conversation.customerUid == user._id with
    | true => rfl
    | false =>
      rw [show (conversation.customerUid != user._id) = true by
        rw [bne, own]; rfl]
      simp
  · simp [isParticipant, allowedBranchIds, Conversation.answeredFor, staff]

theorem not_isParticipant_of_answeredFor
    (answers : conversation.answeredFor user activeBranchId = true) :
    isParticipant conversation user none = false := by
  simp only [Conversation.answeredFor, Bool.and_eq_true, beq_iff_eq, bne_iff_ne] at answers
  rcases answers with ⟨⟨⟨staff, stranger⟩, _⟩, _⟩
  simp [isParticipant, allowedBranchIds, staff, stranger]

theorem gatesAgree_iff
    (found : store.conversations.lookup conversationId = some conversation) :
    GatesAgree store conversationId user activeBranchId runtime ↔
      conversation.answeredFor user activeBranchId = false := by
  have reads : MayRead store conversationId user activeBranchId ↔
      isParticipant conversation user none = true ∨
        conversation.answeredFor user activeBranchId = true := by
    rw [mayRead_iff found, isParticipant_eq, Bool.or_eq_true]
  constructor
  · intro agree
    by_contra answers
    have answers : conversation.answeredFor user activeBranchId = true := by
      simpa using answers
    have writes := (mayWrite_iff found).mp (agree.write.mpr (reads.mpr (.inr answers)))
    rw [not_isParticipant_of_answeredFor answers] at writes
    cases writes
  · intro plain
    rw [plain] at reads
    constructor
    · rw [mayUpload_iff found, mayRead_iff found]
    · rw [mayWrite_iff found, reads]
      simp
    · rw [maySee_iff found, reads]
      simp

theorem role_of_customer (signs : senderRoleOf user = .CUSTOMER) :
    ["merchant", "washer", "courier"].contains (roleIdOf user) = false := by
  rw [senderRoleOf] at signs
  split_ifs at signs with merchant washer courier
  simp [merchant, washer, courier]

variable {input : SendMessageInput}

theorem messageOf_ok {content : MessageContent} {summaryText : String}
    (drafts : messageOf user input = .ok (content, summaryText)) :
    content.conversationId = input.conversationId ∧
      content.senderUid = user._id ∧
      content.senderRole = senderRoleOf user := by
  unfold messageOf at drafts
  dsimp only at drafts
  split at drafts
  · cases drafts
  · cases drafts
    exact ⟨rfl, rfl, rfl⟩

theorem customer_of_signature {order : Option OnlineOrder}
    (participates : isParticipant conversation user none = true)
    (live : isThreadEnded conversation user order = false)
    (placed : conversation.misplaced user order = false)
    (signs : senderRoleOf user = .CUSTOMER) :
    user._id = conversation.customerUid := by
  by_contra stranger
  have other : (conversation.customerUid != user._id) = true := bne_iff_ne.mpr (Ne.symm stranger)
  have role := role_of_customer signs
  by_cases staff : roleIdOf user = "staff"
  · rw [isParticipant, all_allowedBranchIds staff] at participates
    simp [Ne.symm stranger] at participates
  · have provider : conversation.providerUid = user._id := by
      rw [isParticipant, providerUidFor, if_neg staff] at participates
      simp only [Bool.or_eq_true, beq_iff_eq, Bool.and_eq_true] at participates
      exact (participates.resolve_left (Ne.symm stranger)).1
    rw [Conversation.misplaced, other, live, provider] at placed
    simp_all

theorem resume_ended {tick : Tick} {after : Store} {next : Call}
    (resumes : resume tick (.ended conversation user input) store = some (after, some next)) :
    isThreadEnded conversation user tick.order = false ∧
      ∃ content summaryText,
        messageOf user input = .ok (content, summaryText) ∧
          next = .create content summaryText fun side =>
            side == recipientUnread user := by
  cases resumed_of_resume resumes with
  | drafted _ _ _ content summaryText drafts =>
    refine ⟨?_, content, summaryText, drafts, rfl⟩
    by_contra ended
    rw [resume, if_pos (by simpa using ended)] at resumes
    cases resumes

theorem enter_sendMessage {call : Call}
    (found : store.conversations.lookup input.conversationId = some conversation)
    (enters : enter (.sendMessage user input activeBranchId) store = some call) :
    isParticipant conversation user none = true ∧ call = .ended conversation user input := by
  unfold enter at enters
  dsimp only at enters
  rw [findParticipantConversation_eq found] at enters
  by_cases participates : isParticipant conversation user none = true
  · rw [if_pos participates] at enters
    cases enters
    exact ⟨participates, rfl⟩
  · rw [if_neg participates] at enters
    cases enters

/-- Signatures are true unless the provider's account has another role. -/
theorem signsAsItself_iff {order : Option OnlineOrder}
    (found : store.conversations.lookup conversationId = some conversation) :
    SignsAsItself store conversationId user activeBranchId conversation
        order ↔
      conversation.misplaced user order = false := by
  constructor
  · intro signs
    by_contra misplaced
    have misplaced : conversation.misplaced user order = true := by
      simpa using misplaced
    simp only [Conversation.misplaced, Bool.and_eq_true, bne_iff_ne,
      beq_iff_eq, Bool.not_eq_true'] at misplaced
    rcases misplaced with ⟨⟨⟨stranger, provider⟩, role⟩, live⟩
    have plain : roleIdOf user ≠ "staff" ∧ senderRoleOf user = .CUSTOMER := by
      simp [senderRoleOf] at role ⊢
      simp [role]
    have participates : isParticipant conversation user none = true := by
      simp [isParticipant, providerUidFor, allowedBranchIds, plain.1, provider]
    have enters : enter (.sendMessage user
        { conversationId, text := some "Hello", imageKey := none }
        activeBranchId) store =
          some (.ended conversation user
            { conversationId, text := some "Hello", imageKey := none }) := by
      unfold enter
      dsimp only
      rw [findParticipantConversation_eq found, if_pos participates]
    have resumes : resume { now := 0, id := "", order }
        (.ended conversation user { conversationId, text := some "Hello", imageKey := none })
        store =
          some (store, some (.create
            { conversationId
              senderUid := user._id
              senderRole := senderRoleOf user
              text := "Hello"
              imageKey := none } "Hello" fun side =>
                side == recipientUnread user)) := by
      simp only [resume, live]
      rfl
    exact stranger (signs _ _ _ enters _ _ _ _ _ rfl resumes plain.2).symm
  · intro placed text imageKey call enters tick after content summaryText
      recipients ordered resumes signs
    rcases enter_sendMessage found enters with ⟨participates, rfl⟩
    rcases resume_ended resumes with ⟨live, _, _, drafts, same⟩
    cases same
    rcases messageOf_ok drafts with ⟨_, author, role⟩
    rw [author]
    rw [ordered] at live
    exact customer_of_signature participates live placed (role.symm.trans signs)

end

/--
The four gates take the same accounts for participants, and nobody but the customer
signs as the customer, exactly if the account is no staff member that answers for the
branch of the device and no provider's account with a role that no provider has.
-/
theorem chatGatesAgree_iff {store : Store} {conversationId : ObjectId}
    {conversation : Conversation} {user : User}
    {activeBranchId : Option ObjectId} {runtime : Runtime}
    {order : Option OnlineOrder}
    (found : store.conversations.lookup conversationId = some conversation) :
    GatesAgree store conversationId user activeBranchId runtime ∧
        SignsAsItself store conversationId user activeBranchId conversation order ↔
      conversation.answeredFor user activeBranchId = false ∧
        conversation.misplaced user order = false := by
  rw [gatesAgree_iff found, signsAsItself_iff found]

section

variable {store after : Store} {call : Call} {content : MessageContent}

end

namespace Sample

def clerk : User :=
  { account "clerk" "staff" with
    merchantId := some "merchant"
    branchIds := ["branch"] }

def runtime : Runtime where
  fromBase64 := fun text => text.toUTF8.toList
  getSignedReadUrl := fun key => "https://storage/" ++ key

theorem found :
    store.conversations.lookup "thread" = some conversation :=
  AList.lookup_insert _

end Sample

/-- The owner is let through everywhere, whatever branch the device names. -/
theorem chatGatesAgree_merchant :
    GatesAgree Sample.store "thread" Sample.merchant (some "branch")
        Sample.runtime ∧
      SignsAsItself Sample.store "thread" Sample.merchant (some "branch")
        Sample.conversation none :=
  (chatGatesAgree_iff Sample.found).mpr (by decide)

/-- A clerk on the branch of the thread reads it and cannot write in it. -/
theorem clerkCannotWrite :
    ¬ ∀ (store : Store) (conversationId : ObjectId)
        (conversation : Conversation) (user : User)
        (activeBranchId : Option ObjectId) (runtime : Runtime)
        (order : Option OnlineOrder),
        store.conversations.lookup conversationId = some conversation →
        GatesAgree store conversationId user activeBranchId runtime ∧
          SignsAsItself store conversationId user activeBranchId
            conversation order := by
  intro always
  have agree := (always Sample.store "thread" Sample.conversation
    Sample.clerk (some "branch") Sample.runtime none Sample.found).1
  have reads : MayRead Sample.store "thread" Sample.clerk (some "branch") :=
    (mayRead_iff Sample.found).mpr (by decide)
  have writes := (mayWrite_iff Sample.found).mp (agree.write.mpr reads)
  revert writes
  decide

end Lalaba.Chat
