import Lalaba.BookingPolicy.Service

/-!
# The versions of the booking policy

Between archiving a policy and inserting the next one there is no live policy.  A reader
may insert the seed there, and a publisher whose policy is no longer the newest may
insert or restore what is out of date.  In every run there is one live policy when no
publisher is at work; as long as nobody uses the gap of another, it is the one that was
published last.
-/

namespace Lalaba.BookingPolicy

open Foundation
open Foundation.Configuration

/-! ## Live policies -/

def Store.liveOnes (store : Store) : List Policy :=
  store.policies.filter fun policy => policy.status == .LIVE

def Policy.facts (policy : Policy) : ObjectId × ℕ × PolicyContent :=
  (policy._id, policy.version, policy.toPolicyContent)

/-- Ids are used once, and one policy at most is live. -/
structure Store.Good (store : Store) : Prop where
  ids : (store.policies.map Policy._id).Nodup
  single : store.liveOnes.length ≤ 1

def Store.Knows (store : Store) (live : Policy) : Prop :=
  ∃ policy ∈ store.policies, policy.facts = live.facts

def Sound (store : Store) : Call → Prop
  | .find _ => True
  | .seed _ => True
  | .archive live _ _ => store.Knows live
  | .create live _ _ => store.Knows live
  | .restore live => store.Knows live

/-- What a call does when it runs on. -/
inductive Resumed (store : Store) : Call → Store → Option Call → Prop where
  | found (publish : Option Publish) (live : Policy)
      (lives : store.live = some live) :
      Resumed store (.find publish) store (proceed publish live)
  | missing (publish : Option Publish) : Resumed store (.find publish) store (some (.seed publish))
  | seeded (publish : Option Publish) (id : ObjectId) (now : Instant)
      (fresh : id ∉ store.policies.map Policy._id)
      (dark : store.live = none) :
      Resumed store (.seed publish)
        { policies := seedPolicy id now :: store.policies }
        (proceed publish (seedPolicy id now))
  | unseeded (publish : Option Publish)
      (lives : store.live.isSome = true) :
      Resumed store (.seed publish) store none
  | archived (live : Policy) (content : PolicyContent)
      (publish : Publish) :
      Resumed store (.archive live content publish)
        (store.setStatus live._id .ARCHIVED)
        (some (.create live content publish))
  | created (live : Policy) (content : PolicyContent) (publish : Publish)
      (id : ObjectId) (now : Instant)
      (fresh : id ∉ store.policies.map Policy._id)
      (dark : store.live = none) :
      Resumed store (.create live content publish)
        { policies := nextPolicy id now live content publish :: store.policies }
        none
  | refused (live : Policy) (content : PolicyContent) (publish : Publish)
      (lives : store.live.isSome = true) :
      Resumed store (.create live content publish) store (some (.restore live))
  | restored (live : Policy)
      (alone : ∀ other, store.live = some other → other._id = live._id) :
      Resumed store (.restore live) (store.setStatus live._id .LIVE) none
  | kept (live other : Policy) (lives : store.live = some other)
      (apart : other._id ≠ live._id) :
      Resumed store (.restore live) store none

section

variable {store after : Store} {policy live : Policy} {id : ObjectId}
  {status : BookingPolicyStatus} {call : Call} {next : Option Call}
  {tick : Tick}

theorem create_eq_some :
    store.create policy = some after ↔
      store.live = none ∧ after = { policies := policy :: store.policies } := by
  rw [Store.create]
  cases store.live with
  | none => simp [eq_comm]
  | some live => simp

theorem create_eq_none : store.create policy = none ↔ store.live.isSome = true := by
  rw [Store.create]
  split <;> simp_all

theorem resumed_of_resume
    (resumes : resume tick call store = some (after, next)) :
    Resumed store call after next := by
  cases call with
  | find publish =>
    unfold resume at resumes
    dsimp only at resumes
    split at resumes
    · rename_i live lives
      cases resumes
      exact .found _ _ lives
    · cases resumes
      exact .missing _
  | seed publish =>
    unfold resume at resumes
    dsimp only at resumes
    split at resumes
    · cases resumes
    · rename_i fresh
      split at resumes
      · rename_i refused
        cases resumes
        exact .unseeded _ (create_eq_none.mp refused)
      · rename_i after' created
        cases resumes
        rcases create_eq_some.mp created with ⟨dark, rfl⟩
        exact .seeded _ _ _ fresh dark
  | archive live content publish =>
    cases resumes
    exact .archived _ _ _
  | create live content publish =>
    unfold resume at resumes
    dsimp only at resumes
    split at resumes
    · cases resumes
    · rename_i fresh
      split at resumes
      · rename_i refused
        cases resumes
        exact .refused _ _ _ (create_eq_none.mp refused)
      · rename_i after' created
        cases resumes
        rcases create_eq_some.mp created with ⟨dark, rfl⟩
        exact .created _ _ _ _ _ fresh dark
  | restore live =>
    unfold resume at resumes
    dsimp only at resumes
    rw [Store.restore] at resumes
    cases lives : store.live with
    | none =>
      rw [lives] at resumes
      cases resumes
      exact .restored _ fun other absent => by
        cases lives.symm.trans absent
    | some other =>
      rw [lives, Option.any_some] at resumes
      by_cases same : other._id = live._id
      · rw [if_neg (by simp [same])] at resumes
        cases resumes
        apply Resumed.restored
        intro other' found
        cases lives.symm.trans found
        exact same
      · rw [if_pos (bne_iff_ne.mpr same)] at resumes
        cases resumes
        exact .kept _ other lives same

theorem live_eq_head : store.live = store.liveOnes.head? := by
  rw [Store.live, Store.liveOnes, List.head?_filter]

theorem liveOnes_of_dark (dark : store.live = none) : store.liveOnes = [] := by
  rw [live_eq_head, List.head?_eq_none_iff] at dark
  exact dark

theorem mem_liveOnes_of_live (lives : store.live = some live) :
    live ∈ store.policies ∧ live.status = .LIVE := by
  have live' := List.find?_some lives
  exact ⟨List.mem_of_find?_eq_some lives, eq_of_beq live'⟩

theorem live_isSome (member : policy ∈ store.policies)
    (live : policy.status = .LIVE) : store.live.isSome = true := by
  rw [Store.live, List.find?_isSome]
  exact ⟨policy, member, by rw [live]; rfl⟩

theorem facts_setStatus :
    (store.setStatus id status).policies.map Policy.facts = store.policies.map Policy.facts := by
  rw [Store.setStatus, List.map_map]
  apply List.map_congr_left
  intro policy _
  rw [Function.comp_apply]
  split <;> rfl

theorem ids_of_facts :
    store.policies.map Policy._id = (store.policies.map Policy.facts).map Prod.fst := by
  rw [List.map_map]
  rfl

theorem Store.Knows.congr
    (known : store.Knows live)
    (facts : ∀ fact ∈ store.policies.map Policy.facts, fact ∈ after.policies.map Policy.facts) :
    after.Knows live := by
  rcases known with ⟨policy, member, same⟩
  rcases List.mem_map.mp (facts _ (List.mem_map_of_mem member)) with ⟨policy', member', same'⟩
  exact ⟨policy', member', same'.trans same⟩

theorem Store.Good.cons (good : store.Good) (dark : store.live = none)
    (fresh : policy._id ∉ store.policies.map Policy._id) :
    Store.Good { policies := policy :: store.policies } where
  ids := List.nodup_cons.mpr ⟨fresh, good.ids⟩
  single := by
    have none := liveOnes_of_dark dark
    rw [Store.liveOnes] at none ⊢
    rw [List.filter_cons, none]
    split <;> simp

theorem Store.Good.archive (good : store.Good) : (store.setStatus id .ARCHIVED).Good where
  ids := by
    rw [ids_of_facts, facts_setStatus, ← ids_of_facts]
    exact good.ids
  single := by
    refine le_trans ?_ good.single
    rw [Store.liveOnes, Store.setStatus, List.filter_map, List.length_map, Store.liveOnes]
    apply List.Sublist.length_le
    apply List.monotone_filter_right
    intro policy live
    rw [Function.comp_apply] at live
    split at live
    · cases live
    · exact live

theorem Store.Good.unique {other : Policy} (good : store.Good)
    (member : policy ∈ store.liveOnes) (member' : other ∈ store.liveOnes) :
    policy = other := by
  have single := good.single
  cases ones : store.liveOnes with
  | nil =>
    rw [ones] at member
    cases member
  | cons first rest =>
    rw [ones, List.length_cons] at single
    have alone : rest = [] := List.eq_nil_of_length_eq_zero (by omega)
    rw [ones, alone, List.mem_singleton] at member member'
    exact member.trans member'.symm

theorem mem_liveOnes :
    policy ∈ store.liveOnes ↔ policy ∈ store.policies ∧ policy.status = .LIVE := by
  rw [Store.liveOnes, List.mem_filter, beq_iff_eq]

theorem Store.Good.live_eq (good : store.Good)
    (member : policy ∈ store.policies) (lives : policy.status = .LIVE) :
    store.live = some policy := by
  rcases Option.isSome_iff_exists.mp (live_isSome member lives) with ⟨other, found⟩
  rw [found, good.unique (mem_liveOnes.mpr (mem_liveOnes_of_live found))
    (mem_liveOnes.mpr ⟨member, lives⟩)]

theorem Store.Good.restore (good : store.Good)
    (alone : ∀ other, store.live = some other → other._id = id) :
    (store.setStatus id .LIVE).Good where
  ids := by
    rw [ids_of_facts, facts_setStatus, ← ids_of_facts]
    exact good.ids
  single := by
    have single := List.nodup_iff_count_le_one.mp good.ids id
    rw [List.count, List.countP_map] at single
    refine le_trans ?_ single
    rw [Store.liveOnes, Store.setStatus, List.filter_map, List.length_map,
      ← List.countP_eq_length_filter]
    apply List.countP_mono_left
    intro policy member live
    rw [Function.comp_apply] at live
    by_contra apart
    have apart : policy._id ≠ id := fun same => apart (beq_iff_eq.mpr same)
    rw [if_neg apart] at live
    exact apart (alone policy (good.live_eq member (eq_of_beq live)))

theorem live_cons (lives : policy.status = .LIVE) :
    Store.live { policies := policy :: store.policies } = some policy := by
  rw [Store.live, List.find?_cons_of_pos]
  rw [lives]
  rfl

theorem live_restore (known : store.Knows live) :
    (store.setStatus live._id .LIVE).live.isSome = true := by
  rcases known with ⟨policy, member, same⟩
  have id : policy._id = live._id := congrArg Prod.fst same
  have restored : { policy with status := .LIVE } ∈ (store.setStatus live._id .LIVE).policies := by
    apply List.mem_map.mpr
    exact ⟨policy, member, if_pos id⟩
  exact live_isSome restored rfl

/-! ## Calls that count on what they have read -/

theorem knows_of_mem (member : live ∈ store.policies) : store.Knows live := ⟨live, member, rfl⟩

theorem Resumed.remembers (resumed : Resumed store call after next)
    (fact : ObjectId × ℕ × PolicyContent)
    (member : fact ∈ store.policies.map Policy.facts) :
    fact ∈ after.policies.map Policy.facts := by
  cases resumed with
  | found | missing | unseeded | refused | kept => exact member
  | seeded | created => exact List.mem_cons_of_mem _ member
  | archived | restored =>
    rw [facts_setStatus]
    exact member

theorem Resumed.good (resumed : Resumed store call after next)
    (good : store.Good) : after.Good := by
  cases resumed with
  | found | missing | unseeded | refused | kept => exact good
  | seeded _ _ _ fresh dark | created _ _ _ _ _ fresh dark => exact good.cons dark fresh
  | archived _ _ _ => exact good.archive
  | restored _ alone => exact good.restore alone

theorem Sound.congr (sound : Sound store call)
    (remembers : ∀ fact ∈ store.policies.map Policy.facts,
      fact ∈ after.policies.map Policy.facts) : Sound after call := by
  cases call with
  | find | seed => trivial
  | archive | create | restore => exact Store.Knows.congr sound remembers

theorem sound_proceed {publish : Option Publish} {call' : Call}
    (known : store.Knows live) (follows : proceed publish live = some call') :
    Sound store call' := by
  rcases Option.bind_eq_some_iff.mp follows with ⟨publish', _, checked⟩
  dsimp only at checked
  split at checked
  · cases checked
  · cases checked
    exact known

theorem Resumed.sound (resumed : Resumed store call after next)
    (sound : Sound store call) (call' : Call)
    (follows : next = some call') : Sound after call' := by
  cases resumed with
  | found _ live lives =>
    exact sound_proceed (knows_of_mem (mem_liveOnes_of_live lives).1) follows
  | missing _ =>
    cases follows
    trivial
  | seeded _ _ _ _ _ =>
    exact sound_proceed (knows_of_mem List.mem_cons_self) follows
  | unseeded | created | restored | kept => cases follows
  | archived _ _ _ =>
    cases follows
    apply Store.Knows.congr sound
    intro fact member
    rw [facts_setStatus]
    exact member
  | refused _ _ _ _ =>
    cases follows
    exact sound

theorem obligations :
    publishing.Obligations (fun _ => True) (fun _ _ => True)
      Store.Good Sound := by
  constructor
  · intro request store call _ enters
    cases request with
    | current | publish =>
      cases enters
      trivial
  · intro configuration index tick call store next _ _ _ good sound resumes
    have resumed := resumed_of_resume resumes
    exact ⟨resumed.good good, resumed.sound sound⟩
  · intro configuration index tick call store next place other _ _ _ _ _ _ _ sound resumes
    exact sound.congr (resumed_of_resume resumes).remembers

/-- A call of `publish`. -/
def Call.publishes : Call → Bool
  | .find publish => publish.isSome
  | .seed publish => publish.isSome
  | _ => true

def Call.inserts : Call → Bool
  | .create _ _ _ => true
  | _ => false

/--
A call leaves a live policy behind, or goes on to insert one, unless it has changed
nothing and is not done.
-/
theorem Resumed.lit (resumed : Resumed store call after next)
    (sound : Sound store call) :
    after.live.isSome = true ∨
      (∃ call', next = some call' ∧ call'.inserts = true) ∨
        after = store ∧ call.inserts = false ∧ next.isSome = true := by
  cases resumed with
  | found _ _ lives | kept _ _ lives =>
    left
    rw [lives]
    rfl
  | missing _ => exact .inr (.inr ⟨rfl, rfl, rfl⟩)
  | seeded | created =>
    left
    rw [live_cons rfl]
    rfl
  | unseeded _ lives | refused _ _ _ lives => exact .inl lives
  | archived live content publish => exact .inr (.inl ⟨_, rfl, rfl⟩)
  | restored _ _ => exact .inl (live_restore sound)

/-! ## The order of the versions -/

def Store.newest (version : ℕ) (store : Store) : Bool :=
  store.policies.all fun policy => decide (policy.version ≤ version)

/--
The seed is inserted only where there is no policy, and what a publisher inserts or
restores only follows the newest version.
-/
def Call.inOrder (store : Store) : Call → Bool
  | .seed _ => store.live.isSome || store.policies.isEmpty
  | .create live _ _ => store.live.isSome || store.newest live.version
  | .restore live => store.live.isSome || store.newest live.version
  | _ => true

/--
The policies in the order in which they became live, the live one above the others and
the one that was published last as it was laid down.
-/
structure Ordered (store : Store) (history : History) : Prop where
  recorded : history.lives.map Policy.facts = store.policies.map Policy.facts
  descending : (store.policies.map Policy.facts).Pairwise
    fun newer older => older.2.1 < newer.2.1
  newest : ∀ live, store.live = some live → store.newest live.version = true
  stands : ∀ content, history.published = some content →
    (store.policies.map Policy.facts).head?.map (fun fact => fact.2.2) = some content

theorem newest_iff {version : ℕ} :
    store.newest version = true ↔ ∀ fact ∈ store.policies.map Policy.facts, fact.2.1 ≤ version := by
  rw [Store.newest, List.all_eq_true, List.forall_mem_map]
  simp only [decide_eq_true_eq]
  rfl

variable {history : History}

theorem Ordered.head (ordered : Ordered store history)
    (lives : store.live = some live) :
    ∃ rest, store.policies = live :: rest := by
  have member := (mem_liveOnes_of_live lives).1
  have above := newest_iff.mp (ordered.newest live lives)
  have descending := ordered.descending
  cases policies : store.policies with
  | nil =>
    rw [policies] at member
    cases member
  | cons first rest =>
    rw [policies] at member above descending
    rcases List.mem_cons.mp member with same | later
    · exact ⟨rest, by rw [same]⟩
    · have below := (List.pairwise_cons.mp descending).1 _ (List.mem_map_of_mem later)
      have above' := above _ List.mem_cons_self
      exact (Nat.lt_irrefl _ (below.trans_le above')).elim

theorem Ordered.admitting (ordered : Ordered store history) :
    history.admitting store.live = history := by
  cases lives : store.live with
  | none => rfl
  | some live =>
    rcases ordered.head lives with ⟨rest, policies⟩
    have recorded := ordered.recorded
    rw [policies] at recorded
    rcases List.map_eq_cons_iff.mp recorded with ⟨last, older, joined, same, _⟩
    have id : last._id = live._id := congrArg Prod.fst same
    simp [History.admitting, joined, id]

theorem Ordered.congr (ordered : Ordered store history)
    (facts : after.policies.map Policy.facts = store.policies.map Policy.facts)
    (newest : ∀ live, after.live = some live →
      store.newest live.version = true) : Ordered after history where
  recorded := ordered.recorded.trans facts.symm
  descending := by
    rw [facts]
    exact ordered.descending
  newest := by
    intro live lives
    have below := newest_iff.mp (newest live lives)
    rw [← facts] at below
    exact newest_iff.mpr below
  stands := by
    rw [facts]
    exact ordered.stands

/-- A version above all others is inserted. -/
theorem Ordered.cons {published : Option PolicyContent}
    (ordered : Ordered store history)
    (lives : policy.status = .LIVE)
    (fresh : policy._id ∉ store.policies.map Policy._id)
    (above : ∀ fact ∈ store.policies.map Policy.facts, fact.2.1 < policy.version)
    (stands : ∀ content, published = some content → policy.toPolicyContent = content)
    (completed : Bool) :
    Ordered { policies := policy :: store.policies }
      ({ completed, published, lives := history.lives : History }.admitting (some policy)) := by
  have joins :
      ({ completed, published, lives := history.lives : History }.admitting
        (some policy)).lives = policy :: history.lives := by
    have another : (history.lives.head?.any fun last =>
        last._id == policy._id) = false := by
      cases joined : history.lives with
      | nil => rfl
      | cons last older =>
        rw [List.head?_cons, Option.any_some, beq_eq_false_iff_ne]
        intro same
        apply fresh
        rw [ids_of_facts, ← ordered.recorded, joined, ← same]
        exact List.mem_cons_self
    rw [History.admitting]
    dsimp only
    rw [another]
    rfl
  have keeps :
      ({ completed, published, lives := history.lives : History }.admitting
        (some policy)).published = published := by
    rw [History.admitting]
    dsimp only
    split <;> rfl
  constructor
  · rw [joins, List.map_cons, List.map_cons, ordered.recorded]
  · exact List.pairwise_cons.mpr ⟨above, ordered.descending⟩
  · intro live found
    rw [live_cons lives] at found
    cases found
    apply newest_iff.mpr
    intro fact member
    rcases List.mem_cons.mp member with rfl | older
    · exact Nat.le_refl _
    · exact (above fact older).le
  · intro content published'
    rw [keeps] at published'
    exact congrArg some (stands content published')

theorem returning_eq (lays : call.lays = none) :
    history.returning call next =
      { completed := history.completed || next.isNone
        published := history.published
        lives := history.lives } := by
  cases next with
  | none =>
    rw [History.returning, lays, Option.none_or, Option.isNone_none, Bool.or_true]
  | some _ =>
    rw [History.returning, Option.isNone_some, Bool.or_false]

theorem Ordered.returning (ordered : Ordered store history)
    (lays : call.lays = none) :
    Ordered store ((history.returning call next).admitting store.live) := by
  have completed : Ordered store (history.returning call next) := by
    rw [returning_eq lays]
    exact ⟨ordered.recorded, ordered.descending, ordered.newest, ordered.stands⟩
  rw [completed.admitting]
  exact completed

theorem Ordered.archive (ordered : Ordered store history)
    (good : store.Good) :
    Ordered (store.setStatus id .ARCHIVED) history := by
  apply ordered.congr facts_setStatus
  intro live lives
  rcases mem_liveOnes_of_live lives with ⟨member, status⟩
  rcases List.mem_map.mp member with ⟨policy, stored, rfl⟩
  split at status
  · cases status
  · rename_i apart
    rw [if_neg apart]
    exact ordered.newest policy (good.live_eq stored status)

theorem Ordered.restore (ordered : Ordered store history)
    (good : store.Good) (known : store.Knows live)
    (alone : ∀ other, store.live = some other → other._id = live._id)
    (allowed : (store.live.isSome || store.newest live.version) = true) :
    Ordered (store.setStatus live._id .LIVE) history := by
  apply ordered.congr facts_setStatus
  intro restored lives
  rcases mem_liveOnes_of_live lives with ⟨member, status⟩
  rcases List.mem_map.mp member with ⟨policy, stored, rfl⟩
  split at status
  · rename_i same
    rw [if_pos same]
    have unique := List.inj_on_of_nodup_map good.ids
    rcases Bool.or_eq_true_iff.mp allowed with lit | newest
    · rcases Option.isSome_iff_exists.mp lit with ⟨other, found⟩
      have found' := (mem_liveOnes_of_live found).1
      cases unique stored found' (same.trans (alone other found).symm)
      exact ordered.newest policy found
    · rcases known with ⟨read, stored', facts⟩
      have id : read._id = live._id := congrArg Prod.fst facts
      have version : read.version = live.version := congrArg (fun fact => fact.2.1) facts
      cases unique stored stored' (same.trans id.symm)
      rw [← version] at newest
      exact newest
  · rename_i apart
    exact (apart (alone policy (good.live_eq stored status))).elim

theorem Resumed.ordered (resumed : Resumed store call after next)
    (good : store.Good) (sound : Sound store call)
    (allowed : call.inOrder store = true)
    (ordered : Ordered store history) :
    Ordered after ((history.returning call next).admitting after.live) := by
  cases resumed with
  | found | missing | unseeded | kept => exact ordered.returning rfl
  | seeded publish id now fresh dark =>
    rw [Call.inOrder, dark, Option.isSome_none, Bool.false_or, List.isEmpty_iff] at allowed
    rw [live_cons rfl, returning_eq rfl]
    apply ordered.cons rfl fresh
    · intro fact member
      rw [allowed] at member
      cases member
    · intro content published
      have stands := ordered.stands content published
      rw [allowed] at stands
      cases stands
  | archived _ _ _ => exact (ordered.archive good).returning rfl
  | created live content publish id now fresh dark =>
    rw [Call.inOrder, dark, Option.isSome_none, Bool.false_or] at allowed
    have below := newest_iff.mp allowed
    rw [live_cons rfl]
    apply ordered.cons rfl fresh
    · exact fun fact member => Nat.lt_succ_of_le (below fact member)
    · intro content' published
      cases published
      rfl
  | refused _ _ _ _ =>
    rw [History.returning, ordered.admitting]
    exact ordered
  | restored live alone =>
    exact (ordered.restore good sound alone allowed).returning rfl

end

/-! ## Interleavings -/

def inOrder (configuration : Calls) : Move Request Tick → Bool
  | .enter _ => true
  | .resume index _ =>
    match configuration.calls[index]? with
    | some (some call) => call.inOrder configuration.store
    | _ => true

section

variable {both both' : Calls × History} {move : Move Request Tick}

abbrev Sited (configuration : Calls) : Prop := Service.Invariant Store.Good Sound configuration

def Lit (both : Calls × History) : Prop :=
  both.2.completed = true → both.1.store.live.isSome = true ∨ both.1.someCall Call.inserts = true

theorem see_resumed {configuration : Calls} {index : ℕ} {tick : Tick}
    {call : Call} {store : Store} {next : Option Call} {history : History}
    (waits : configuration.Waits index call) :
    see configuration (.resume index tick)
        (configuration.resumed index store next) history =
      (history.returning call next).admitting store.live := by
  have within := (List.getElem?_eq_some_iff.mp waits).1
  have placed : (configuration.resumed index store next).calls[index]? =
      some next := by
    rw [resumed, List.getElem?_set_self within]
  unfold see
  dsimp only
  rw [waits, placed]
  rfl

theorem completed_admitting {live : Option Policy} {history : History} :
    (history.admitting live).completed = history.completed := by
  unfold History.admitting
  split
  · rfl
  · split <;> rfl

theorem sited_step (sited : Sited both.1)
    (stepped : (publishing.system.observed see).step move both = some both') : Sited both'.1 :=
  obligations.step trivial sited trivial (System.observed_step stepped).1

theorem lit_step (sited : Sited both.1) (lit : Lit both)
    (stepped : (publishing.system.observed see).step move both = some both') : Lit both' := by
  rcases both' with ⟨after, history⟩
  rcases System.observed_step stepped with ⟨ran, seen⟩
  dsimp only at ran seen
  subst seen
  cases Service.stepped_of_step ran with
  | entered request call enters =>
    exact fun completed => (lit completed).imp_right someCall_entered
  | resumed index tick call store next waits resumes =>
    intro completed
    rw [see_resumed waits, completed_admitting] at completed
    have sound := sited.sound index call waits
    rcases (resumed_of_resume resumes).lit sound with
      lives | ⟨call', rfl, inserts⟩ | ⟨rfl, other, continues⟩
    · exact .inl lives
    · exact .inr (someCall_next waits inserts)
    · rcases Option.isSome_iff_exists.mp continues with ⟨call', rfl⟩
      apply (lit completed).imp_right
      intro some
      apply someCall_resumed waits some
      intro inserts
      cases other.symm.trans inserts

theorem ordered_step (sited : Sited both.1)
    (ordered : Ordered both.1.store both.2)
    (allowed : inOrder both.1 move = true)
    (stepped : (publishing.system.observed see).step move both =
      some both') : Ordered both'.1.store both'.2 := by
  rcases both' with ⟨after, history⟩
  rcases System.observed_step stepped with ⟨ran, seen⟩
  dsimp only at ran seen
  subst seen
  cases Service.stepped_of_step ran with
  | entered request call enters => exact ordered
  | resumed index tick call store next waits resumes =>
    rw [inOrder, waits] at allowed
    dsimp only at allowed
    rw [see_resumed waits]
    exact (resumed_of_resume resumes).ordered sited.good
      (sited.sound index call waits) allowed ordered

theorem good_empty : Store.empty.Good where
  ids := List.nodup_nil
  single := Nat.zero_le _

theorem ordered_empty : Ordered Store.empty {} where
  recorded := rfl
  descending := List.Pairwise.nil
  newest := fun _ absent => by cases absent
  stands := fun _ absent => by cases absent

theorem oneLive
    {admissible : Calls × History → Move Request Tick → Prop}
    (reached : (publishing.system.observed see).Reaches admissible (.start .empty, {}) both)
    (idle : both.1.someCall Call.publishes = false)
    (completed : both.2.completed = true) :
    both.1.store.liveOnes.length = 1 := by
  have known : Sited both.1 ∧ Lit both := by
    refine reached.invariant (fun both => Sited both.1 ∧ Lit both) ?_ ?_
    · exact ⟨Service.invariant_start good_empty, fun absent => by
        cases absent⟩
    · intro _ _ _ ⟨sited, lit⟩ _ stepped
      exact ⟨sited_step sited stepped, lit_step sited lit stepped⟩
  rcases known with ⟨sited, lit⟩
  have lives : both.1.store.live.isSome = true := by
    rcases lit completed with lives | inserting
    · exact lives
    · rcases someCall_iff.mp inserting with ⟨index, call, waits, inserts⟩
      have publishes : both.1.someCall Call.publishes = true := by
        apply someCall_iff.mpr ⟨index, call, waits, ?_⟩
        cases call with
        | create | archive | restore => rfl
        | find | seed => cases inserts
      cases idle.symm.trans publishes
  rcases Option.isSome_iff_exists.mp lives with ⟨live, found⟩
  have member := mem_liveOnes.mpr (mem_liveOnes_of_live found)
  exact Nat.le_antisymm sited.good.single (List.length_pos_of_mem member)

/--
In a run in which the seed is inserted only where there is no policy, and in which what
a publisher inserts or restores only follows the newest version, the policy that is live
is the one that was published last, and the versions that are live one after another
increase.  When no publisher is at work, one policy is live.
-/
theorem lastPublishedStands
    (reached : (publishing.system.observed see).Reaches
      (fun both move => inOrder both.1 move = true)
      (.start .empty, {}) both) :
    (both.1.someCall Call.publishes = false → both.2.completed = true →
      both.1.store.liveOnes.length = 1) ∧
    (∀ live ∈ both.1.store.liveOnes, ∀ content,
      both.2.published = some content → live.toPolicyContent = content) ∧
    (both.2.lives.map Policy.version).Pairwise
      fun newer older => older < newer := by
  have known : Sited both.1 ∧ Ordered both.1.store both.2 := by
    refine reached.invariant (fun both => Sited both.1 ∧ Ordered both.1.store both.2) ?_ ?_
    · exact ⟨Service.invariant_start good_empty, ordered_empty⟩
    · intro _ _ _ ⟨sited, ordered⟩ allowed stepped
      exact ⟨sited_step sited stepped, ordered_step sited ordered allowed stepped⟩
  rcases known with ⟨sited, ordered⟩
  refine ⟨oneLive reached, ?_, ?_⟩
  · intro live member content published
    rcases mem_liveOnes.mp member with ⟨stored, status⟩
    rcases ordered.head (sited.good.live_eq stored status) with ⟨rest, policies⟩
    have stands := ordered.stands content published
    rw [policies] at stands
    exact Option.some.inj stands
  · have versions : both.2.lives.map Policy.version =
        (both.2.lives.map Policy.facts).map fun fact => fact.2.1 := by
      rw [List.map_map]
      rfl
    rw [versions, ordered.recorded, List.pairwise_map]
    exact ordered.descending

end

namespace Sample

def closes : Request := .publish { input := { enabled := some false }, actorUid := "admin" }

def resizes : Request :=
  .publish
    { input := { defaults := { dailyCapacity := some 20 } }
      actorUid := "admin" }

def goesOn (index : ℕ) (drawn : ObjectId := "") :
    Move Request Tick :=
  .resume index { now := 0, drawn }

def closing : List (Move Request Tick) :=
  [.enter closes, goesOn 0, goesOn 0 "first", goesOn 0, goesOn 0 "second"]

def reseeding : List (Move Request Tick) :=
  [.enter resizes, goesOn 1, goesOn 1, .enter .current, goesOn 2,
    goesOn 2 "third", goesOn 1 "fourth", goesOn 1]

def seen (both : Calls × History) :
    Bool × Bool × List Bool × Option Bool × List ℕ :=
  (both.1.someCall Call.publishes, both.2.completed,
    both.1.store.liveOnes.map fun live => live.enabled,
    both.2.published.map fun content => content.enabled,
    both.2.lives.map Policy.version)

end Sample

/-- The platform is closed by the second version, which is then live. -/
theorem lastPublishedStands_second :
    ∃ both : Calls × History,
      (publishing.system.observed see).Reaches
          (fun both move => inOrder both.1 move = true)
          (.start .empty, {}) both ∧
        both.2.lives.map Policy.version = [2, 1] ∧
        both.1.store.liveOnes.length = 1 ∧
        ∀ live ∈ both.1.store.liveOnes, ∀ content,
          both.2.published = some content → live.toPolicyContent = content := by
  have performed :
      (((publishing.system.observed see).restrict
          (fun both move => inOrder both.1 move = true)).perform
        Sample.closing (.start .empty, {})).map Sample.seen =
        some (false, true, [false], some false, [2, 1]) := by
    decide +kernel
  rcases System.reaches_of_map_restrict performed with ⟨both, reached, seen⟩
  have idle : both.1.someCall Call.publishes = false := congrArg Prod.fst seen
  have completed : both.2.completed = true := congrArg (fun seen => seen.2.1) seen
  have stands := lastPublishedStands reached
  exact
    ⟨both, reached, congrArg (fun seen => seen.2.2.2.2) seen, stands.1 idle completed, stands.2.1⟩

/-- The seed is live again over the policy that was published last. -/
theorem seededOverPublished :
    ¬ ∀ both : Calls × History,
      (publishing.system.observed see).Reaches (fun _ _ => True)
          (.start .empty, {}) both →
        (both.1.someCall Call.publishes = false →
          both.2.completed = true → both.1.store.liveOnes.length = 1) ∧
        (∀ live ∈ both.1.store.liveOnes, ∀ content,
          both.2.published = some content → live.toPolicyContent = content) ∧
        (both.2.lives.map Policy.version).Pairwise
          fun newer older => older < newer := by
  intro always
  have performed :
      ((publishing.system.observed see).perform
        (Sample.closing ++ Sample.reseeding) (.start .empty, {})).map Sample.seen =
        some (false, true, [true], some false, [1, 2, 1]) := by
    decide +kernel
  rcases System.reaches_of_map performed with ⟨both, ran, seen⟩
  have stands := (always both ran).2.1
  have enabled : both.1.store.liveOnes.map (fun live => live.enabled) =
      [true] := congrArg (fun seen => seen.2.2.1) seen
  have published : both.2.published.map (fun content => content.enabled) =
      some false := congrArg (fun seen => seen.2.2.2.1) seen
  rcases Option.map_eq_some_iff.mp published with ⟨content, laid, closed⟩
  rcases List.map_eq_cons_iff.mp enabled with ⟨live, _, ones, opened, _⟩
  have member : live ∈ both.1.store.liveOnes := by
    rw [ones]
    exact List.mem_cons_self
  rw [← stands live member content laid] at closed
  cases opened.symm.trans closed

end Lalaba.BookingPolicy
