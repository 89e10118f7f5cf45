import Lalaba.Promotions.System
import Mathlib.Data.List.Range
import Mathlib.Tactic.Linarith

/-!
# The counter of a code

A code counts its redemptions in a field of its own.  The count goes up with a
row that is inserted and down with a row that is released, so it is the number of
rows that still hold a slot, whatever the calls are interleaved with.
-/

namespace Lalaba.Promotions

open Foundation

def PromoRedemption.holds (promoId : ObjectId) (row : PromoRedemption) :
    Bool :=
  row.promoId == promoId && row.status != .released

theorem PromoRedemption.holds_eq {promoId : ObjectId}
    {row : PromoRedemption} (kept : row.status ≠ .released) :
    row.holds promoId = decide (promoId = row.promoId) := by
  rw [holds, Bool.eq_iff_iff, Bool.and_eq_true, beq_iff_eq, bne_iff_ne, decide_eq_true_eq]
  exact ⟨fun both => both.1.symm, fun same => ⟨same.symm, kept⟩⟩

def PromotionStore.uses (promoId : ObjectId) (store : PromotionStore) : ℕ :=
  store.redemptions.countP (PromoRedemption.holds promoId)

def keepsCap : Option ℤ → Option ℤ → Bool
  | _, none => true
  | none, some _ => false
  | some former, some cap => decide (former ≤ cap)

@[simp]
theorem keepsCap_refl (cap : Option ℤ) : keepsCap cap cap = true := by
  cases cap <;> simp [keepsCap]

theorem keepsCap_trans {first second third : Option ℤ}
    (one : keepsCap first second = true)
    (other : keepsCap second third = true) :
    keepsCap first third = true := by
  cases third with
  | none => cases first <;> rfl
  | some high =>
    cases second with
    | none => cases other
    | some middle =>
      cases first with
      | none => cases one
      | some low =>
        simp only [keepsCap, decide_eq_true_eq] at one other ⊢
        exact one.trans other

theorem keepsCap_le {former cap : Option ℤ} {count : ℤ}
    (kept : keepsCap former cap = true)
    (below : ∀ limit, former = some limit → count ≤ limit) :
    ∀ limit, cap = some limit → count ≤ limit := by
  rintro limit rfl
  cases former with
  | none => cases kept
  | some low =>
    simp only [keepsCap, decide_eq_true_eq] at kept
    exact (below low rfl).trans kept

namespace PromotionStore

/--
Codes stay and their caps are not lowered, rows stay what they are, and no row is
held again that was not held any more.
-/
structure Evolves (store after : PromotionStore) : Prop where
  promos : ∀ old ∈ store.promos, ∃ promo ∈ after.promos, promo._id = old._id
  caps : ∀ promo ∈ after.promos, ∀ old ∈ store.promos,
    old._id = promo._id → keepsCap old.usageCapTotal promo.usageCapTotal = true
  longer : store.redemptions.length ≤ after.redemptions.length
  rows : ∀ row ∈ after.redemptions, row._id < store.redemptions.length →
    ∃ old ∈ store.redemptions, old._id = row._id ∧
      old.promoId = row.promoId ∧ (row.status = .reserved → old.status = .reserved)

/-- The counters of a store agree with its rows. -/
structure WellFormed (store : PromotionStore) : Prop where
  identified : ∀ promo ∈ store.promos, ∀ other ∈ store.promos, promo._id = other._id → promo = other
  numbered : store.redemptions.map PromoRedemption._id = List.range store.redemptions.length
  owned : ∀ row ∈ store.redemptions, ∃ promo ∈ store.promos, promo._id = row.promoId
  exact : ∀ promo ∈ store.promos, promo.redemptionCount = (store.uses promo._id : ℕ)
  bounded : ∀ promo ∈ store.promos, ∀ cap,
    promo.usageCapTotal = some cap → promo.redemptionCount ≤ cap

section

variable {store middle after : PromotionStore}

variable {row : PromoRedemption}

theorem WellFormed.index_lt (wellFormed : store.WellFormed)
    (member : row ∈ store.redemptions) :
    row._id < store.redemptions.length := by
  have numbered : row._id ∈ store.redemptions.map PromoRedemption._id := List.mem_map_of_mem member
  rw [wellFormed.numbered] at numbered
  exact List.mem_range.mp numbered

theorem WellFormed.unique (wellFormed : store.WellFormed)
    {other : PromoRedemption} (member : row ∈ store.redemptions)
    (member' : other ∈ store.redemptions) (same : row._id = other._id) :
    row = other := by
  have distinct : (store.redemptions.map PromoRedemption._id).Nodup := by
    rw [wellFormed.numbered]
    exact List.nodup_range
  exact List.inj_on_of_nodup_map distinct member member' same

theorem Evolves.of_rows (promos : after.promos.map (fun promo =>
      (promo._id, promo.usageCapTotal)) =
        store.promos.map fun promo => (promo._id, promo.usageCapTotal))
    (identified : ∀ promo ∈ store.promos, ∀ other ∈ store.promos,
      promo._id = other._id → promo = other)
    (longer : store.redemptions.length ≤ after.redemptions.length)
    (rows : ∀ row ∈ after.redemptions, row._id < store.redemptions.length →
        ∃ old ∈ store.redemptions, old._id = row._id ∧ old.promoId = row.promoId ∧
            (row.status = .reserved → old.status = .reserved)) :
    store.Evolves after where
  promos := by
    intro old member
    have listed : (old._id, old.usageCapTotal) ∈
        store.promos.map fun promo => (promo._id, promo.usageCapTotal) :=
      List.mem_map_of_mem member
    rw [← promos] at listed
    rcases List.mem_map.mp listed with ⟨promo, member', equal⟩
    exact ⟨promo, member', congrArg Prod.fst equal⟩
  caps := by
    intro promo member old member' same
    have listed : (promo._id, promo.usageCapTotal) ∈
        after.promos.map fun promo => (promo._id, promo.usageCapTotal) :=
      List.mem_map_of_mem member
    rw [promos] at listed
    rcases List.mem_map.mp listed with ⟨other, member'', equal⟩
    have key : other._id = promo._id := congrArg Prod.fst equal
    have cap : other.usageCapTotal = promo.usageCapTotal := congrArg Prod.snd equal
    rw [identified old member' other member'' (same.trans key.symm), cap]
    exact keepsCap_refl _
  longer := longer
  rows := rows

/-! ## The operations -/

theorem promos_countRedemption (promoId : ObjectId) (change : ℤ)
    (store : PromotionStore) :
    (store.countRedemption promoId change).promos.map (fun promo =>
        (promo._id, promo.usageCapTotal)) =
      store.promos.map fun promo => (promo._id, promo.usageCapTotal) := by
  rw [countRedemption, List.map_map]
  apply List.map_congr_left
  intro promo _
  simp only [Function.comp_apply]
  split <;> rfl

theorem mem_countRedemption {promoId : ObjectId} {change : ℤ}
    {promo : PromoCode} :
    promo ∈ (store.countRedemption promoId change).promos ↔
      ∃ old ∈ store.promos, promo =
        if old._id = promoId then
          { old with redemptionCount := old.redemptionCount + change }
        else
          old := by
  rw [countRedemption, List.mem_map]
  constructor
  · rintro ⟨old, member, rfl⟩
    exact ⟨old, member, rfl⟩
  · rintro ⟨old, member, rfl⟩
    exact ⟨old, member, rfl⟩

/--
The count goes with the rows: when the counter of a code is moved by as much as
the number of rows that hold its slots, and stays below its cap, the store stays
well formed.
-/
theorem WellFormed.counted (wellFormed : store.WellFormed)
    {promoId : ObjectId} {change : ℤ}
    (promos : after.promos = (store.countRedemption promoId change).promos)
    (numbered : after.redemptions.map PromoRedemption._id = List.range after.redemptions.length)
    (owned : ∀ row ∈ after.redemptions, ∃ old ∈ store.promos, old._id = row.promoId)
    (uses : ∀ other, (after.uses other : ℤ) =
      store.uses other + if other = promoId then change else 0)
    (room : ∀ promo ∈ store.promos, promo._id = promoId → ∀ cap,
      promo.usageCapTotal = some cap → promo.redemptionCount + change ≤ cap) :
    after.WellFormed where
  identified := by
    intro promo member other member' same
    rw [promos] at member member'
    rcases mem_countRedemption.mp member with ⟨first, one, rfl⟩
    rcases mem_countRedemption.mp member' with ⟨second, two, rfl⟩
    have key : first._id = second._id := by
      split at same <;> split at same <;> exact same
    rw [wellFormed.identified first one second two key]
  numbered := numbered
  owned := by
    intro row member
    rcases owned row member with ⟨old, member', same⟩
    rw [promos]
    refine ⟨_, mem_countRedemption.mpr ⟨old, member', rfl⟩, ?_⟩
    split <;> exact same
  exact := by
    intro promo member
    rw [promos] at member
    rcases mem_countRedemption.mp member with ⟨old, member', rfl⟩
    have count := wellFormed.exact old member'
    split
    · rename_i same
      rw [uses, if_pos same, count]
    · rename_i different
      rw [uses, if_neg different, count, add_zero]
  bounded := by
    intro promo member cap limited
    rw [promos] at member
    rcases mem_countRedemption.mp member with ⟨old, member', rfl⟩
    split at limited
    · rename_i same
      rw [if_pos same]
      exact room old member' same cap limited
    · rename_i different
      rw [if_neg different]
      exact wellFormed.bounded old member' cap limited

theorem record_eq (promo : PromoCode) (row : PromoRedemption)
    (store : PromotionStore) (own : row.promoId = promo._id) :
    store.record promo row = (store.countRedemption row.promoId 1).insertRedemption row := by
  rw [own]
  rfl

theorem WellFormed.inserted (wellFormed : store.WellFormed)
    (held : row.status ≠ .released)
    (found : ∃ promo ∈ store.promos, promo._id = row.promoId)
    (room : ∀ promo ∈ store.promos, promo._id = row.promoId → ∀ cap,
      promo.usageCapTotal = some cap → promo.redemptionCount < cap) :
    ((store.countRedemption row.promoId 1).insertRedemption row).WellFormed := by
  refine @WellFormed.counted _ _ wellFormed row.promoId 1 rfl ?_ ?_ ?_ ?_
  · have numbered := wellFormed.numbered
    simp only [insertRedemption, countRedemption, List.map_append,
      List.map_cons, List.map_nil, List.length_append, List.length_singleton,
      List.range_succ, numbered]
  · intro other member
    simp only [insertRedemption, countRedemption, List.mem_append, List.mem_singleton] at member
    rcases member with old | rfl
    · exact wellFormed.owned other old
    · exact found
  · intro other
    have holds : PromoRedemption.holds other
        { row with _id := store.redemptions.length } = decide (other = row.promoId) :=
      PromoRedemption.holds_eq held
    simp only [uses, insertRedemption, countRedemption, List.countP_append,
      List.countP_singleton, holds, decide_eq_true_eq, Nat.cast_add]
    split <;> simp
  · intro promo member same cap limited
    have below := room promo member same cap limited
    omega

theorem WellFormed.evolves_inserted (wellFormed : store.WellFormed)
    (row : PromoRedemption) :
    store.Evolves ((store.countRedemption row.promoId 1).insertRedemption row) := by
  refine .of_rows (promos_countRedemption _ _ _) wellFormed.identified ?_ ?_
  · simp [insertRedemption, countRedemption]
  · intro other member earlier
    simp only [insertRedemption, countRedemption, List.mem_append, List.mem_singleton] at member
    rcases member with old | rfl
    · exact ⟨other, old, rfl, rfl, id⟩
    · exact (lt_irrefl _ earlier).elim

/-- One row that holds a slot gives it back. -/
theorem countP_released {rows : List PromoRedemption}
    {stored : PromoRedemption} (now : Instant) (promoId : ObjectId)
    (member : stored ∈ rows)
    (distinct : (rows.map PromoRedemption._id).Nodup)
    (held : stored.status = .reserved) :
    rows.countP (PromoRedemption.holds promoId) = (rows.map fun other =>
        if other._id = stored._id ∧ other.status = .reserved then
          { other with status := .released, releasedAt := some now }
        else
          other).countP (PromoRedemption.holds promoId) +
        if promoId = stored.promoId then 1 else 0 := by
  rcases List.append_of_mem member with ⟨before, rest, rfl⟩
  have others : ∀ other ∈ before ++ rest, other._id ≠ stored._id := by
    intro other elsewhere same
    have moved : ((stored :: (before ++ rest)).map
        PromoRedemption._id).Nodup :=
      (List.perm_middle.map PromoRedemption._id).nodup_iff.mp distinct
    rw [List.map_cons, List.nodup_cons] at moved
    exact moved.1 (List.mem_map.mpr ⟨other, elsewhere, same⟩)
  have same : ∀ part ⊆ before ++ rest, part.map (fun other =>
      if other._id = stored._id ∧ other.status = .reserved then
        { other with status := .released, releasedAt := some now }
      else
        other) = part := by
    intro part within
    have each : ∀ other ∈ part, (if other._id = stored._id ∧
        other.status = .reserved then
          { other with status := .released, releasedAt := some now }
        else
          other) = other := by
      intro other elsewhere
      rw [if_neg]
      exact fun selected => others other (within elsewhere) selected.1
    exact (List.map_congr_left each).trans (List.map_id _)
  rw [List.map_append, List.map_cons, same before (by simp),
    same rest (by simp), if_pos ⟨rfl, held⟩]
  simp only [List.countP_append, List.countP_cons]
  have slot : PromoRedemption.holds promoId stored = decide (promoId = stored.promoId) := by
    apply PromoRedemption.holds_eq
    rw [held]
    exact nofun
  have given : PromoRedemption.holds promoId
      { stored with status := .released, releasedAt := some now } =
        false := by
    simp [PromoRedemption.holds]
  rw [slot, given]
  simp only [decide_eq_true_eq, Bool.false_eq_true, if_false]
  omega

theorem releaseRow_of_free {now : Instant}
    (free : ∀ stored ∈ store.redemptions, stored._id = row._id → stored.status ≠ .reserved) :
    store.releaseRow now row = store := by
  rw [releaseRow, if_neg]
  intro held
  rcases List.any_eq_true.mp held with ⟨stored, member, selected⟩
  simp only [Bool.and_eq_true, beq_iff_eq] at selected
  exact free stored member selected.1 selected.2

def Recorded (row : PromoRedemption) (store : PromotionStore) : Prop :=
  row._id < store.redemptions.length ∧
    ∀ stored ∈ store.redemptions, stored._id = row._id → stored.promoId = row.promoId

theorem Evolves.recorded {row : PromoRedemption}
    (evolves : store.Evolves after) (knows : Recorded row store) :
    Recorded row after := by
  refine ⟨knows.1.trans_le evolves.longer, ?_⟩
  intro stored member same
  rcases evolves.rows stored member (same ▸ knows.1) with ⟨old, member', key, promo, _⟩
  exact promo.symm.trans (knows.2 old member' (key.trans same))

/-- Releasing one row flips at most that row, and counts what it flips. -/
theorem WellFormed.releaseRow (wellFormed : store.WellFormed) (now : Instant)
    (knows : Recorded row store) :
    (store.releaseRow now row).WellFormed ∧
      store.Evolves (store.releaseRow now row) ∧
      ∀ stored ∈ (store.releaseRow now row).redemptions,
        stored._id = row._id → stored.status ≠ .reserved := by
  by_cases free : ∀ stored ∈ store.redemptions, stored._id = row._id → stored.status ≠ .reserved
  · rw [releaseRow_of_free free]
    refine ⟨wellFormed, ?_, free⟩
    exact .of_rows rfl wellFormed.identified le_rfl
      fun row member _ => ⟨row, member, rfl, rfl, id⟩
  · simp only [not_forall, not_not] at free
    rcases free with ⟨stored, member, same, held⟩
    have selected : (store.redemptions.any fun other =>
        other._id == row._id && other.status == .reserved) = true := by
      rw [List.any_eq_true]
      exact ⟨stored, member, by simp [same, held]⟩
    rw [PromotionStore.releaseRow, if_pos selected]
    have distinct : (store.redemptions.map PromoRedemption._id).Nodup := by
      rw [wellFormed.numbered]
      exact List.nodup_range
    have promoId : stored.promoId = row.promoId := knows.2 stored member same
    have keys : (store.redemptions.map fun other =>
        if other._id = row._id ∧ other.status = .reserved then
          { other with status := .released, releasedAt := some now }
        else
          other).map PromoRedemption._id =
        store.redemptions.map PromoRedemption._id := by
      rw [List.map_map]
      apply List.map_congr_left
      intro other _
      simp only [Function.comp_apply]
      split <;> rfl
    refine ⟨?_, ?_, ?_⟩
    · refine @WellFormed.counted _ _ wellFormed row.promoId (-1) rfl ?_ ?_ ?_ ?_
      · simp only [keys, List.length_map]
        exact wellFormed.numbered
      · intro other member'
        rcases List.mem_map.mp member' with ⟨old, stored', rfl⟩
        rcases wellFormed.owned old stored' with ⟨promo, found, owner⟩
        refine ⟨promo, found, owner.trans ?_⟩
        split <;> rfl
      · intro other
        have count := countP_released now other member distinct held
        rw [same] at count
        simp only [uses, count, promoId]
        push_cast
        split <;> omega
      · intro promo member' _ cap limited
        have below := wellFormed.bounded promo member' cap limited
        omega
    · refine .of_rows (promos_countRedemption _ _ _) wellFormed.identified (by simp) ?_
      intro other member' _
      rcases List.mem_map.mp member' with ⟨old, stored', rfl⟩
      split
      · exact ⟨old, stored', rfl, rfl, nofun⟩
      · exact ⟨old, stored', rfl, rfl, id⟩
    · intro other member' key
      rcases List.mem_map.mp member' with ⟨old, _, rfl⟩
      split at key
      · rename_i flipped
        rw [if_pos flipped]
        exact nofun
      · rename_i kept
        rw [if_neg kept]
        exact fun reserved => kept ⟨key, reserved⟩

theorem Evolves.refl (wellFormed : store.WellFormed) :
    store.Evolves store :=
  .of_rows rfl wellFormed.identified le_rfl
    fun row member _ => ⟨row, member, rfl, rfl, id⟩

theorem Evolves.trans (first : store.Evolves middle) (second : middle.Evolves after) :
    store.Evolves after where
  promos := by
    intro old member
    rcases first.promos old member with ⟨promo, member', same⟩
    rcases second.promos promo member' with ⟨later, member'', same'⟩
    exact ⟨later, member'', same'.trans same⟩
  caps := by
    intro later member old member' same
    rcases first.promos old member' with ⟨promo, stored, key⟩
    exact keepsCap_trans (first.caps promo stored old member' key.symm)
      (second.caps later member promo stored (key.trans same))
  longer := first.longer.trans second.longer
  rows := by
    intro row member earlier
    rcases second.rows row member (earlier.trans_le first.longer) with
      ⟨between, member', same, promo, held⟩
    rcases first.rows between member' (same ▸ earlier) with ⟨old, member'', same', promo', held'⟩
    exact ⟨old, member'', same'.trans same, promo'.trans promo,
      fun reserved => held' (held reserved)⟩

theorem WellFormed.releaseAll (wellFormed : store.WellFormed)
    {held : List PromoRedemption} (now : Instant)
    (knows : ∀ row ∈ held, Recorded row store) :
    (store.releaseAll now held).WellFormed ∧
      store.Evolves (store.releaseAll now held) ∧
      ∀ row ∈ held, ∀ stored ∈ (store.releaseAll now held).redemptions,
        stored._id = row._id → stored.status ≠ .reserved := by
  induction held generalizing store with
  | nil => exact ⟨wellFormed, .refl wellFormed, nofun⟩
  | cons row rest induction =>
    rcases wellFormed.releaseRow now (knows row (by simp)) with ⟨wellFormed', evolves, free⟩
    have known : ∀ other ∈ rest, Recorded other (store.releaseRow now row) := by
      intro other member
      exact evolves.recorded (knows other (List.mem_cons_of_mem _ member))
    rcases induction wellFormed' known with ⟨wellFormed'', evolves', free'⟩
    refine ⟨wellFormed'', evolves.trans evolves', ?_⟩
    intro other member stored member' same
    rcases List.mem_cons.mp member with rfl | member
    · intro reserved
      have earlier : stored._id < (store.releaseRow now other).redemptions.length := by
        rw [same]
        exact (knows other (by simp)).1.trans_le evolves.longer
      rcases evolves'.rows stored member' earlier with ⟨old, stored', key, _, held⟩
      exact free old stored' (key.trans same) (held reserved)
    · exact free' other member stored member' same

theorem releaseAll_of_free {held : List PromoRedemption} (now : Instant)
    (free : ∀ row ∈ held, ∀ stored ∈ store.redemptions,
      stored._id = row._id → stored.status ≠ .reserved) :
    store.releaseAll now held = store := by
  induction held with
  | nil => rfl
  | cons row rest induction =>
    show (store.releaseRow now row).releaseAll now rest = store
    rw [releaseRow_of_free (free row (by simp))]
    apply induction
    exact fun other member => free other (List.mem_cons_of_mem _ member)

theorem WellFormed.recorded_heldBy (wellFormed : store.WellFormed)
    {orderId : ObjectId} (member : row ∈ store.heldBy orderId) : Recorded row store := by
  have stored := (List.mem_filter.mp member).1
  refine ⟨wellFormed.index_lt stored, ?_⟩
  intro other member' same
  rw [wellFormed.unique member' stored same]

/-- Settling an order changes no count. -/
theorem WellFormed.settleForOrder (wellFormed : store.WellFormed)
    (orderId : ObjectId) :
    (store.settleForOrder orderId).WellFormed ∧ store.Evolves (store.settleForOrder orderId) := by
  have same : (store.settleForOrder orderId).redemptions.map
      PromoRedemption._id = store.redemptions.map PromoRedemption._id := by
    rw [PromotionStore.settleForOrder, List.map_map]
    apply List.map_congr_left
    intro row _
    simp only [Function.comp_apply]
    split <;> rfl
  have uses : ∀ promoId, (store.settleForOrder orderId).uses promoId =
      store.uses promoId := by
    intro promoId
    rw [PromotionStore.uses, PromotionStore.settleForOrder, List.countP_map]
    apply List.countP_congr
    intro row _
    simp only [Function.comp_apply, PromoRedemption.holds]
    split
    · rename_i settled
      simp [settled.2]
    · rfl
  refine ⟨⟨wellFormed.identified, ?_, ?_, ?_, wellFormed.bounded⟩, ?_⟩
  · rw [same, wellFormed.numbered]
    simp [PromotionStore.settleForOrder]
  · intro row member
    rcases List.mem_map.mp member with ⟨old, stored, rfl⟩
    rcases wellFormed.owned old stored with ⟨promo, found, owner⟩
    refine ⟨promo, found, owner.trans ?_⟩
    split <;> rfl
  · intro promo member
    rw [uses]
    exact wellFormed.exact promo member
  · refine .of_rows rfl wellFormed.identified (by simp [PromotionStore.settleForOrder]) ?_
    intro row member _
    rcases List.mem_map.mp member with ⟨old, stored, rfl⟩
    split
    · exact ⟨old, stored, rfl, rfl, nofun⟩
    · exact ⟨old, stored, rfl, rfl, id⟩

/-- An administrator changes a code, without lowering its cap. -/
theorem WellFormed.setPromo (wellFormed : store.WellFormed)
    {promoId : ObjectId} {change : PromoCode → PromoCode}
    (same : ∀ promo, (change promo)._id = promo._id)
    (count : ∀ promo, (change promo).redemptionCount = promo.redemptionCount)
    (raises : ∀ promo ∈ store.promos, promo._id = promoId →
      keepsCap promo.usageCapTotal (change promo).usageCapTotal = true) :
    (store.setPromo promoId change).WellFormed ∧ store.Evolves (store.setPromo promoId change) := by
  let changed (promo : PromoCode) : PromoCode :=
    if promo._id = promoId then change promo else promo
  have key : ∀ promo, (changed promo)._id = promo._id := by
    intro promo
    simp only [changed]
    split
    · exact same promo
    · rfl
  have cap : ∀ promo ∈ store.promos,
      keepsCap promo.usageCapTotal (changed promo).usageCapTotal =
        true := by
    intro promo member
    simp only [changed]
    split
    · rename_i selected
      exact raises promo member selected
    · exact keepsCap_refl _
  have total : ∀ promo, (changed promo).redemptionCount = promo.redemptionCount := by
    intro promo
    simp only [changed]
    split
    · exact count promo
    · rfl
  have promos : (store.setPromo promoId change).promos =
      store.promos.map changed :=
    rfl
  refine ⟨⟨?_, wellFormed.numbered, ?_, ?_, ?_⟩, ⟨?_, ?_, le_rfl, ?_⟩⟩
  · intro promo member other member' equal
    rw [promos] at member member'
    rcases List.mem_map.mp member with ⟨first, one, rfl⟩
    rcases List.mem_map.mp member' with ⟨second, two, rfl⟩
    rw [key, key] at equal
    rw [wellFormed.identified first one second two equal]
  · intro row member
    rcases wellFormed.owned row member with ⟨promo, found, owner⟩
    exact ⟨changed promo, List.mem_map_of_mem found, (key promo).trans owner⟩
  · intro promo member
    rw [promos] at member
    rcases List.mem_map.mp member with ⟨old, member', rfl⟩
    rw [total, key]
    exact wellFormed.exact old member'
  · intro promo member limit limited
    rw [promos] at member
    rcases List.mem_map.mp member with ⟨old, member', rfl⟩
    rw [total]
    exact keepsCap_le (cap old member') (wellFormed.bounded old member') limit limited
  · intro old member
    exact ⟨changed old, List.mem_map_of_mem member, key old⟩
  · intro promo member old member' equal
    rw [promos] at member
    rcases List.mem_map.mp member with ⟨other, stored, rfl⟩
    rw [key] at equal
    rw [wellFormed.identified old member' other stored equal]
    exact cap other stored
  · exact fun row member _ => ⟨row, member, rfl, rfl, id⟩

/-- A new code has not been used. -/
theorem WellFormed.create (wellFormed : store.WellFormed)
    {promoId : ObjectId} {input : CreatePromoInput}
    (created : store.create promoId input = .ok after) :
    after.WellFormed ∧ store.Evolves after := by
  rcases create_ok created with ⟨free, rfl⟩
  refine ⟨⟨?_, wellFormed.numbered, ?_, ?_, ?_⟩, ⟨?_, ?_, le_rfl, ?_⟩⟩
  · intro promo member other member' same
    rcases List.mem_append.mp member with old | new <;>
      rcases List.mem_append.mp member' with old' | new'
    · exact wellFormed.identified promo old other old' same
    · cases List.mem_singleton.mp new'
      exact (free promo old same).elim
    · cases List.mem_singleton.mp new
      exact (free other old' same.symm).elim
    · rw [List.mem_singleton.mp new, List.mem_singleton.mp new']
  · intro row member
    rcases wellFormed.owned row member with ⟨promo, found, owner⟩
    exact ⟨promo, List.mem_append_left _ found, owner⟩
  · intro promo member
    rcases List.mem_append.mp member with old | new
    · exact wellFormed.exact promo old
    · cases List.mem_singleton.mp new
      have unused : store.uses promoId = 0 := by
        apply List.countP_eq_zero.mpr
        intro row member' holds
        rcases wellFormed.owned row member' with ⟨promo, found, owner⟩
        simp only [PromoRedemption.holds, Bool.and_eq_true, beq_iff_eq] at holds
        exact free promo found (owner.trans holds.1)
      show (0 : ℤ) = (store.uses promoId : ℕ)
      rw [unused]
      rfl
  · intro promo member cap limited
    rcases List.mem_append.mp member with old | new
    · exact wellFormed.bounded promo old cap limited
    · cases List.mem_singleton.mp new
      simp only [newPromo, Option.map_eq_some_iff] at limited
      rcases limited with ⟨most, _, rfl⟩
      exact Int.natCast_nonneg most
  · intro old member
    exact ⟨old, List.mem_append_left _ member, rfl⟩
  · intro promo member old member' same
    rcases List.mem_append.mp member with stored | new
    · rw [wellFormed.identified old member' promo stored same]
      exact keepsCap_refl _
    · cases List.mem_singleton.mp new
      exact (free old member' same).elim
  · exact fun row member _ => ⟨row, member, rfl, rfl, id⟩

end

end PromotionStore

/-! ## Calls in flight -/

def Call.Sound (store : PromotionStore) : Call → Prop
  | .redemption promo row =>
    row.promoId = promo._id ∧ row.status ≠ .released ∧
      (∃ stored ∈ store.promos, stored._id = promo._id) ∧
      ∀ stored ∈ store.promos, promo._id = stored._id →
        keepsCap promo.usageCapTotal stored.usageCapTotal = true
  | .branch _ => True
  | .release _ held => ∀ row ∈ held, PromotionStore.Recorded row store

theorem Call.Sound.evolves {store after : PromotionStore} {call : Call}
    (sound : call.Sound store) (evolves : store.Evolves after) :
    call.Sound after := by
  cases call with
  | redemption promo row =>
    rcases sound with ⟨same, held, ⟨stored, member, key⟩, caps⟩
    refine ⟨same, held, ?_, ?_⟩
    · rcases evolves.promos stored member with ⟨later, member', key'⟩
      exact ⟨later, member', key'.trans key⟩
    · intro later member' key'
      exact keepsCap_trans (caps stored member key.symm)
        (evolves.caps later member' stored member (key.trans key'))
  | branch => trivial
  | release orderId held =>
    exact fun row member => evolves.recorded (sound row member)

/-- The counters are right, and the calls in flight will not upset them. -/
structure State.Sound (state : State) : Prop where
  wellFormed : state.store.WellFormed
  calls : ∀ call ∈ state.calls, call.Sound state.store

def capsKept (state : State) : Action → Bool
  | .update promoId input =>
    state.store.promos.all fun promo =>
      promo._id != promoId || keepsCap promo.usageCapTotal (input.apply promo).usageCapTotal
  | _ => true

namespace State

variable {state after : State}

theorem sound_start : State.start.Sound := by
  refine ⟨⟨?_, rfl, ?_, ?_, ?_⟩, ?_⟩
  all_goals intro _ member; cases member

theorem Sound.begin (sound : state.Sound) {call : Call}
    (known : call.Sound state.store) : (state.begin call).Sound where
  wellFormed := sound.wellFormed
  calls := by
    intro other member
    rcases List.mem_append.mp member with old | new
    · exact sound.calls other old
    · cases List.mem_singleton.mp new
      exact known

theorem Sound.write (sound : state.Sound)
    (wellFormed : after.store.WellFormed)
    (evolves : state.store.Evolves after.store)
    (calls : after.calls ⊆ state.calls) : after.Sound where
  wellFormed := wellFormed
  calls := fun call member =>
    (sound.calls call (calls member)).evolves evolves

end State

section

variable {store after : PromotionStore}

theorem PromotionStore.mem_of_findById {promoId : ObjectId}
    {promo : PromoCode} (found : store.findById promoId = some promo) :
    promo ∈ store.promos ∧ promo._id = promoId := by
  refine ⟨List.mem_of_find?_eq_some found, ?_⟩
  have selected := List.find?_some found
  exact beq_iff_eq.mp selected

/-- A transaction that commits leaves the store well formed. -/
theorem Call.Sound.transact {call : Call} (sound : call.Sound store)
    (wellFormed : store.WellFormed) {now : Instant}
    (committed : call.transact now store = .ok after) :
    after.WellFormed ∧ store.Evolves after := by
  cases call with
  | redemption promo row =>
    rcases sound with ⟨same, held, found, caps⟩
    rcases Call.transact_redemption committed with ⟨stored, lookup, below, rfl⟩
    rw [← same] at found ⊢
    refine ⟨wellFormed.inserted held found ?_, wellFormed.evolves_inserted row⟩
    intro other member key cap limited
    rcases PromotionStore.mem_of_findById lookup with ⟨member', key'⟩
    have equal := wellFormed.identified other member stored member'
      ((key.trans same).trans key'.symm)
    subst equal
    -- The cap that was read may have been raised since.
    have kept := caps other member key'.symm
    rw [limited] at kept
    rcases former : promo.usageCapTotal with _ | low
    · rw [former] at kept
      cases kept
    · rw [former] at kept
      simp only [keepsCap, decide_eq_true_eq] at kept
      exact (below low former).trans_le kept
  | branch input =>
    rcases Call.transact_branch committed with
      rfl | ⟨promo, row, lookup, vacant, own, reserved, _, _, rfl⟩
    · exact ⟨wellFormed, .refl wellFormed⟩
    · rcases PromotionStore.mem_of_findById lookup with ⟨member, key⟩
      rw [PromotionStore.record_eq _ _ _ own]
      refine ⟨wellFormed.inserted (by rw [reserved]; exact nofun)
        ⟨promo, member, own.symm⟩ ?_, wellFormed.evolves_inserted _⟩
      intro other member' key' cap limited
      have equal := wellFormed.identified other member' promo member (key'.trans own)
      subst equal
      simpa [PromotionStore.exhausted, limited] using vacant
  | release orderId held =>
    cases committed
    rcases wellFormed.releaseAll now sound with ⟨wellFormed', evolves, _⟩
    exact ⟨wellFormed', evolves⟩

theorem createRedemption_sound {accounts : Accounts} {now : Instant}
    {input : RedeemPromoInput} {status : PromoRedemptionStatus}
    {call : Call} (wellFormed : store.WellFormed)
    (held : status ≠ .released)
    (created : createRedemption accounts now input status store = .ok call) : call.Sound store := by
  rcases createRedemption_ok created with ⟨promo, member, _, _, _, rfl⟩
  refine ⟨rfl, held, ⟨promo, member, rfl⟩, ?_⟩
  intro stored member' key
  rw [wellFormed.identified promo member stored member' key]
  exact keepsCap_refl _

/-- Every step that lowers no cap keeps the counters right. -/
theorem State.Sound.step {state next : State} (sound : state.Sound)
    {action : Action} (kept : capsKept state action = true)
    (stepped : Promotions.step action state = some next) :
    next.Sound ∧ state.store.Evolves next.store := by
  have refl : state.store.Evolves state.store := .refl sound.wellFormed
  cases action with
  | create promoId input =>
    rcases Option.map_eq_some_iff.mp stepped with ⟨store, created, rfl⟩
    rcases sound.wellFormed.create (toOption_eq_some.mp created) with ⟨wellFormed, evolves⟩
    exact ⟨sound.write wellFormed evolves fun _ member => member, evolves⟩
  | update promoId input =>
    rcases Option.map_eq_some_iff.mp stepped with ⟨store, updated, rfl⟩
    have raises : ∀ promo ∈ state.store.promos, promo._id = promoId →
        keepsCap promo.usageCapTotal (input.apply promo).usageCapTotal = true := by
      intro promo member same
      have each := List.all_eq_true.mp kept promo member
      simpa [same] using each
    rcases PromotionStore.update_ok (toOption_eq_some.mp updated) with rfl
    rcases @PromotionStore.WellFormed.setPromo _ sound.wellFormed promoId
      input.apply (fun _ => rfl) (fun _ => rfl) raises with
      ⟨wellFormed, evolves⟩
    exact ⟨sound.write wellFormed evolves fun _ member => member, evolves⟩
  | setActive promoId isActive =>
    rcases Option.map_eq_some_iff.mp stepped with ⟨store, updated, rfl⟩
    rcases PromotionStore.setActive_ok (toOption_eq_some.mp updated) with
      rfl
    rcases @PromotionStore.WellFormed.setPromo _ sound.wellFormed promoId
      (fun promo => { promo with isActive }) (fun _ => rfl)
      (fun _ => rfl) (fun _ _ _ => keepsCap_refl _) with
      ⟨wellFormed, evolves⟩
    exact ⟨sound.write wellFormed evolves fun _ member => member, evolves⟩
  | redeem accounts now input =>
    rcases Option.map_eq_some_iff.mp stepped with ⟨call, created, rfl⟩
    refine ⟨sound.begin ?_, refl⟩
    apply createRedemption_sound sound.wellFormed
      (show PromoRedemptionStatus.redeemed ≠ .released from nofun)
    exact toOption_eq_some.mp created
  | reserve accounts now input =>
    rcases Option.map_eq_some_iff.mp stepped with ⟨call, created, rfl⟩
    refine ⟨sound.begin ?_, refl⟩
    apply createRedemption_sound sound.wellFormed
      (show PromoRedemptionStatus.reserved ≠ .released from nofun)
    exact toOption_eq_some.mp created
  | reserveForBranch input =>
    cases stepped
    exact ⟨sound.begin trivial, refl⟩
  | applyPlatformFeePromo now roleId input =>
    rcases Option.map_eq_some_iff.mp stepped with ⟨promo, _, rfl⟩
    exact ⟨sound.begin trivial, refl⟩
  | releaseForOrder orderId =>
    cases stepped
    refine ⟨sound.begin ?_, refl⟩
    exact fun row member => sound.wellFormed.recorded_heldBy member
  | settleForOrder orderId =>
    cases stepped
    rcases sound.wellFormed.settleForOrder orderId with ⟨wellFormed, evolves⟩
    exact ⟨sound.write wellFormed evolves fun _ member => member, evolves⟩
  | commit index now =>
    simp only [Promotions.step] at stepped
    split at stepped
    · cases stepped
    · rename_i call flying
      have known := sound.calls call (List.mem_of_getElem? flying)
      split at stepped
      · cases stepped
        refine ⟨sound.write sound.wellFormed refl ?_, refl⟩
        exact fun _ member => List.mem_of_mem_eraseIdx member
      · rename_i store outcome
        cases stepped
        rcases known.transact sound.wellFormed outcome with ⟨wellFormed, evolves⟩
        refine ⟨sound.write wellFormed evolves ?_, evolves⟩
        exact fun _ member => List.mem_of_mem_eraseIdx member
  | crash index =>
    cases stepped
    refine ⟨sound.write sound.wellFormed refl ?_, refl⟩
    exact fun _ member => List.mem_of_mem_eraseIdx member

end

theorem State.Sound.of_reaches {state : State}
    (reached : promotionSystem.Reaches
      (fun state action => capsKept state action = true) .start state) :
    state.Sound := by
  apply reached.invariant State.Sound State.sound_start
  exact fun state action after sound kept stepped =>
    (sound.step kept stepped).1

def PromotionStore.Released (held : List PromoRedemption)
    (store : PromotionStore) : Prop :=
  ∀ row ∈ held, row._id < store.redemptions.length ∧
    ∀ stored ∈ store.redemptions, stored._id = row._id → stored.status ≠ .reserved

theorem PromotionStore.Released.evolves {held : List PromoRedemption}
    {store after : PromotionStore} (released : store.Released held)
    (evolves : store.Evolves after) : after.Released held := by
  intro row member
  rcases released row member with ⟨earlier, free⟩
  refine ⟨earlier.trans_le evolves.longer, ?_⟩
  intro stored member' same reserved
  rcases evolves.rows stored member' (same ▸ earlier) with ⟨old, member'', key, _, held⟩
  exact free old member'' (key.trans same) (held reserved)

/--
The counter of every code is the number of its rows that are not released, and
stays within the total cap.  A release commits at most once: whatever happens
after it, another release that has read no other rows changes nothing.
-/
theorem promoCounterIsExactAndBounded {state : State}
    (reached : promotionSystem.Reaches
      (fun state action => capsKept state action = true) .start state) :
    (∀ promo ∈ state.store.promos,
      promo.redemptionCount = (state.store.uses promo._id : ℕ) ∧
        ∀ cap, promo.usageCapTotal = some cap → promo.redemptionCount ≤ cap) ∧
    ∀ orderId index now held after,
      state.calls[index]? = some (.release orderId held) →
      promotionSystem.step (.commit index now) state = some after →
      ∀ later, promotionSystem.Reaches
          (fun state action => capsKept state action = true) after later →
        ∀ index' now' held' finish,
          later.calls[index']? = some (.release orderId held') →
          (∀ row ∈ held', row._id ∈ held.map PromoRedemption._id) →
          promotionSystem.step (.commit index' now') later = some finish →
          finish.store = later.store := by
  have sound := State.Sound.of_reaches reached
  constructor
  · exact fun promo member => ⟨sound.wellFormed.exact promo member,
      sound.wellFormed.bounded promo member⟩
  · intro orderId index now held after flying stepped later reached'
      index' now' held' finish flying' within stepped'
    have known := sound.calls _ (List.mem_of_getElem? flying)
    have sound' := @State.Sound.step _ _ sound (.commit index now) rfl stepped
    simp only [promotionSystem, Promotions.step, flying, Call.transact,
      Option.some.injEq] at stepped
    simp only [promotionSystem, Promotions.step, flying', Call.transact,
      Option.some.injEq] at stepped'
    subst stepped'
    show later.store.releaseAll now' held' = later.store
    have released : after.store.Released held := by
      rcases sound.wellFormed.releaseAll now known with ⟨_, evolves, free⟩
      subst stepped
      exact fun row member =>
        ⟨(known row member).1.trans_le evolves.longer, free row member⟩
    have both : later.Sound ∧ later.store.Released held := by
      apply reached'.invariant
        (fun state => state.Sound ∧ state.store.Released held)
        ⟨sound'.1, released⟩
      rintro state action next ⟨sound, released⟩ kept stepped
      rcases sound.step kept stepped with ⟨sound', evolves⟩
      exact ⟨sound', released.evolves evolves⟩
    apply PromotionStore.releaseAll_of_free
    intro row member stored member' same
    rcases List.mem_map.mp (within row member) with ⟨other, member'', key⟩
    exact (both.2 other member'').2 stored member' (same.trans key.symm)

namespace Desk

/-- Half off, twice in all and once for each customer. -/
def halfOff : CreatePromoInput where
  code := "HALF"
  scope := none
  discountType := .percentage
  discountValue := 50
  maxDiscountCentavos := none
  minOrderValueCentavos := none
  targetRoleIds := ["customer"]
  firstOrderOnly := none
  usageCapTotal := some 2
  usageCapPerCustomer := some 1
  usageCapPerSubject := none
  startsAt := 0
  expiresAt := none

def accounts : Accounts := fun uid => some
  { roleId := some "customer", hasOrdered := false, name := uid }

def order (orderId : ObjectId) : RedeemPromoInput where
  code := "HALF"
  customerUid := "customer"
  orderTotalCentavos := 20000
  orderId := some orderId

def releases : List Action :=
  [ .create "promo" halfOff,
    .reserve accounts 1 (order "order"),
    .commit 0 1,
    .releaseForOrder "order",
    .releaseForOrder "order" ]

end Desk

def Desk.held : PromoRedemption :=
  customerRow (newPromo "promo" Desk.halfOff) (Desk.order "order") "customer" 10000 .reserved

def Desk.waiting : State where
  store :=
    { promos :=
        [{ newPromo "promo" Desk.halfOff with redemptionCount := 1 }]
      redemptions := [Desk.held] }
  calls := [.release "order" [Desk.held], .release "order" [Desk.held]]

/-- The first release gives the slot back, and the second one does nothing. -/
theorem promoCounterIsExactAndBounded_twoReleases :
    ∃ after finish,
      promotionSystem.Reaches
          (fun state action => capsKept state action = true) .start
          Desk.waiting ∧
        Desk.waiting.store.uses "promo" = 1 ∧
        promotionSystem.step (.commit 0 2) Desk.waiting = some after ∧
        promotionSystem.step (.commit 0 3) after = some finish ∧
        after.store.uses "promo" = 0 ∧ finish.store = after.store := by
  have performed : (promotionSystem.restrict fun state action =>
          capsKept state action = true).perform Desk.releases .start =
        some Desk.waiting := by
    decide +kernel
  have reached := System.reaches_of_perform_restrict performed
  let after : State :=
    { store := Desk.waiting.store.releaseAll 2 [Desk.held]
      calls := [.release "order" [Desk.held]] }
  have first : promotionSystem.step (.commit 0 2) Desk.waiting =
      some after :=
    rfl
  refine ⟨after, _, reached, by decide +kernel, first, rfl,
    by decide +kernel, ?_⟩
  exact (promoCounterIsExactAndBounded reached).2 "order" 0 2 [Desk.held]
    after rfl first after .refl 0 3 [Desk.held] _ rfl
    (fun row member => List.mem_map_of_mem member) rfl

end Lalaba.Promotions
