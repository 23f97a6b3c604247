/-
**Bounded and faithful delivery, abstractly.**

A courier numbers the parcels it makes. A parcel goes out once when it is made, or it is kept by a
holder with an allowance, and each time the holder sends it the allowance goes down; a holder may
also lose some of its allowance, and it forgets its parcel when it keeps another. Whatever the order
of these moves, no parcel goes out more often than the limit on allowances, and each time with the
content it was made with (`Courier.Sound`).
-/

import Mathlib.Data.List.Nodup
import Mathlib.Data.Nat.Basic
import Mathlib.Logic.Relation

namespace TinyHan.Lib

open Relation

/-- What a holder keeps: the number and content of a parcel, and how often it may still go out. -/
structure Parcel (Content : Type) where
  number : Nat
  content : Content
  allowance : Nat

/-- What the holders keep, how many numbers are used up, the parcels that were made and those that
went out. -/
structure Courier (Holder Content : Type) where
  held : Holder → Parcel Content
  issued : Nat
  made : List (Nat × Content)
  sent : List (Nat × Content)

/-- How often the parcel with a number is in a list. -/
def countNumber {Content : Type} (number : Nat) (parcels : List (Nat × Content)) : Nat :=
  parcels.countP fun parcel => parcel.1 == number

section Courier

variable {Holder Content : Type}

/-- The allowance of a holder changes. -/
def Courier.allow [DecidableEq Holder] (courier : Courier Holder Content) (holder : Holder)
    (left : Nat) : Courier Holder Content :=
  { courier with
    held := Function.update courier.held holder { courier.held holder with allowance := left } }

/-- The moves of a courier, with a limit on allowances. -/
inductive Courier.Step [DecidableEq Holder] (limit : Nat) :
    Courier Holder Content → Courier Holder Content → Prop where
  /-- A holder loses some of its allowance. -/
  | lapse (courier : Courier Holder Content) (holder : Holder) (left : Nat)
      (less : left ≤ (courier.held holder).allowance) :
      Courier.Step limit courier (courier.allow holder left)
  /-- A holder sends its parcel. -/
  | spend (courier : Courier Holder Content) (holder : Holder) (left : Nat)
      (less : left < (courier.held holder).allowance) :
      Courier.Step limit courier { courier.allow holder left with
        sent := courier.sent ++ [((courier.held holder).number, (courier.held holder).content)] }
  /-- A number is used up for nothing. -/
  | skip (courier : Courier Holder Content) :
      Courier.Step limit courier { courier with issued := courier.issued + 1 }
  /-- A parcel goes out and is not kept. -/
  | post (courier : Courier Holder Content) (content : Content) (some : 0 < limit) :
      Courier.Step limit courier { courier with
        issued := courier.issued + 1
        made := courier.made ++ [(courier.issued + 1, content)]
        sent := courier.sent ++ [(courier.issued + 1, content)] }
  /-- A parcel is kept by a holder, which forgets the one it had. -/
  | keep (courier : Courier Holder Content) (holder : Holder) (content : Content)
      (allowance : Nat) (within : allowance ≤ limit) :
      Courier.Step limit courier { courier with
        held := Function.update courier.held holder ⟨courier.issued + 1, content, allowance⟩
        issued := courier.issued + 1
        made := courier.made ++ [(courier.issued + 1, content)] }

/-- What holds of every courier that is reached. -/
structure Courier.Sound (limit : Nat) (courier : Courier Holder Content) : Prop where
  numbered : ∀ holder, (courier.held holder).number ≤ courier.issued
  counted : ∀ parcel ∈ courier.made, parcel.1 ≤ courier.issued
  distinct : (courier.made.map Prod.fst).Nodup
  faithful : ∀ parcel ∈ courier.sent, parcel ∈ courier.made
  kept : ∀ holder, 0 < (courier.held holder).allowance →
    ((courier.held holder).number, (courier.held holder).content) ∈ courier.made
  owned : ∀ one two, 0 < (courier.held one).allowance → 0 < (courier.held two).allowance →
    (courier.held one).number = (courier.held two).number → one = two
  within : ∀ holder, 0 < (courier.held holder).allowance →
    countNumber (courier.held holder).number courier.sent + (courier.held holder).allowance ≤ limit
  bounded : ∀ number, countNumber number courier.sent ≤ limit

/-- Numbers start at one, and what a holder has was made, however little of its allowance is left. A
holder that never kept a parcel has the number zero. -/
structure Courier.Recorded (courier : Courier Holder Content) : Prop where
  positive : ∀ parcel ∈ courier.made, 0 < parcel.1
  held : ∀ holder, (courier.held holder).number ≠ 0 →
    ((courier.held holder).number, (courier.held holder).content) ∈ courier.made

/-- The number is used up, and no holder has its parcel. -/
structure Courier.Dropped (number : Nat) (courier : Courier Holder Content) : Prop where
  used : number ≤ courier.issued
  unheld : ∀ holder, (courier.held holder).number ≠ number

end Courier

/-! ### Counting -/

section Count

variable {Content : Type} (number : Nat) (parcels : List (Nat × Content)) (other : Nat)
  (content : Content)

theorem countNumber_append :
    countNumber number (parcels ++ [(other, content)]) =
      countNumber number parcels + if other = number then 1 else 0 := by
  simp [countNumber, List.countP_cons]

theorem countNumber_eq_zero (fresh : ∀ parcel ∈ parcels, parcel.1 < number) :
    countNumber number parcels = 0 := by
  rw [countNumber, List.countP_eq_zero]
  intro parcel member same
  rw [beq_iff_eq] at same
  have below := fresh parcel member
  omega

end Count

/-! ### The moves keep a courier sound -/

namespace Courier

variable {Holder Content : Type} {limit : Nat} {courier after : Courier Holder Content}

section Allow

variable [DecidableEq Holder] (courier) (holder other : Holder) (left : Nat)

@[simp] theorem allow_number :
    ((courier.allow holder left).held other).number = (courier.held other).number := by
  by_cases same : other = holder
  · subst same
    simp [allow]
  · simp [allow, same]

@[simp] theorem allow_content :
    ((courier.allow holder left).held other).content = (courier.held other).content := by
  by_cases same : other = holder
  · subst same
    simp [allow]
  · simp [allow, same]

theorem allow_allowance :
    ((courier.allow holder left).held other).allowance =
      if other = holder then left else (courier.held other).allowance := by
  by_cases same : other = holder
  · simp [allow, same]
  · simp [allow, same]

theorem allow_allowance_le (less : left ≤ (courier.held holder).allowance) :
    ((courier.allow holder left).held other).allowance ≤ (courier.held other).allowance := by
  rw [allow_allowance]
  split
  · next same =>
    rw [same]
    exact less
  · exact le_rfl

end Allow

/-- A parcel is kept and sent for the first time. -/
theorem keep_spend [DecidableEq Holder] (courier : Courier Holder Content) (holder : Holder)
    (content : Content) (left : Nat) (within : left < limit) :
    ReflTransGen (Step limit) courier
      { held := Function.update courier.held holder ⟨courier.issued + 1, content, left⟩
        issued := courier.issued + 1
        made := courier.made ++ [(courier.issued + 1, content)]
        sent := courier.sent ++ [(courier.issued + 1, content)] } := by
  have kept := Step.keep courier holder content limit le_rfl
  refine (ReflTransGen.single kept).tail ?_
  have spent := @Step.spend _ _ _ limit { courier with
    held := Function.update courier.held holder ⟨courier.issued + 1, content, limit⟩
    issued := courier.issued + 1
    made := courier.made ++ [(courier.issued + 1, content)] } holder left (by simpa using within)
  simpa [allow] using spent

namespace Sound

section Fresh

/-- A number that is not used up has not gone out. -/
theorem fresh (sound : courier.Sound limit) :
    countNumber (courier.issued + 1) courier.sent = 0 := by
  refine countNumber_eq_zero _ _ fun parcel member => ?_
  exact Nat.lt_succ_of_le (sound.counted parcel (sound.faithful parcel member))

theorem distinct_append (sound : courier.Sound limit) (content : Content) :
    ((courier.made ++ [(courier.issued + 1, content)]).map Prod.fst).Nodup := by
  rw [List.map_append, List.nodup_append]
  refine ⟨sound.distinct, List.nodup_singleton _, fun number old new is => ?_⟩
  obtain ⟨parcel, member, rfl⟩ := List.mem_map.mp old
  have below := sound.counted parcel member
  intro equal
  simp only [List.map_cons, List.map_nil, List.mem_singleton] at is
  omega

theorem counted_append (sound : courier.Sound limit) (content : Content) :
    ∀ parcel ∈ courier.made ++ [(courier.issued + 1, content)],
      parcel.1 ≤ courier.issued + 1 := by
  intro parcel member
  rcases List.mem_append.mp member with old | new
  · exact Nat.le_succ_of_le (sound.counted parcel old)
  · obtain rfl := List.mem_singleton.mp new
    exact le_rfl

theorem skip (sound : courier.Sound limit) :
    Sound limit { courier with issued := courier.issued + 1 } where
  numbered holder := Nat.le_succ_of_le (sound.numbered holder)
  counted parcel member := Nat.le_succ_of_le (sound.counted parcel member)
  distinct := sound.distinct
  faithful := sound.faithful
  kept := sound.kept
  owned := sound.owned
  within := sound.within
  bounded := sound.bounded

theorem post (sound : courier.Sound limit) (content : Content) (some : 0 < limit) :
    Sound limit { courier with
      issued := courier.issued + 1
      made := courier.made ++ [(courier.issued + 1, content)]
      sent := courier.sent ++ [(courier.issued + 1, content)] } := by
  refine ⟨sound.skip.numbered, sound.counted_append content, sound.distinct_append content,
    fun parcel member => ?_, fun holder more => List.mem_append_left _ (sound.kept holder more),
    sound.owned, fun holder more => ?_, fun number => ?_⟩
  · rcases List.mem_append.mp member with old | new
    · exact List.mem_append_left _ (sound.faithful parcel old)
    · exact List.mem_append_right _ new
  · have other : courier.issued + 1 ≠ (courier.held holder).number := by
      have below := sound.numbered holder
      omega
    rw [countNumber_append, if_neg other]
    exact sound.within holder more
  · rw [countNumber_append]
    split
    · next same =>
      rw [← same, sound.fresh]
      omega
    · exact sound.bounded number

end Fresh

variable [DecidableEq Holder]

theorem lapse (sound : courier.Sound limit) (holder : Holder) (left : Nat)
    (less : left ≤ (courier.held holder).allowance) : (courier.allow holder left).Sound limit := by
  have smaller (other : Holder) := allow_allowance_le courier holder other left less
  refine ⟨fun other => ?_, sound.counted, sound.distinct, sound.faithful, fun other more => ?_,
    fun one two more more' same => ?_, fun other more => ?_, sound.bounded⟩
  · rw [allow_number]
    exact sound.numbered other
  · rw [allow_number, allow_content]
    exact sound.kept other (lt_of_lt_of_le more (smaller other))
  · rw [allow_number, allow_number] at same
    exact sound.owned one two (lt_of_lt_of_le more (smaller one))
      (lt_of_lt_of_le more' (smaller two)) same
  · rw [allow_number]
    have within := sound.within other (lt_of_lt_of_le more (smaller other))
    have less := smaller other
    show countNumber _ courier.sent + _ ≤ limit
    omega

/-- The allowance pays for the delivery: no other holder counts it, since the number is owned. -/
theorem spend (sound : courier.Sound limit) (holder : Holder) (left : Nat)
    (less : left < (courier.held holder).allowance) :
    Sound limit { courier.allow holder left with
      sent := courier.sent ++
        [((courier.held holder).number, (courier.held holder).content)] } := by
  have lapsed := sound.lapse holder left (Nat.le_of_lt less)
  have more : 0 < (courier.held holder).allowance := Nat.zero_lt_of_lt less
  have within := sound.within holder more
  refine ⟨lapsed.numbered, lapsed.counted, lapsed.distinct, fun parcel member => ?_, lapsed.kept,
    lapsed.owned, fun other some => ?_, fun number => ?_⟩
  · rcases List.mem_append.mp member with old | new
    · exact sound.faithful parcel old
    · rw [List.mem_singleton.mp new]
      exact sound.kept holder more
  · have before := lapsed.within other some
    simp only [allow_number] at before ⊢
    rw [countNumber_append]
    split
    · next same =>
      have some : 0 < (courier.held other).allowance :=
        lt_of_lt_of_le some (allow_allowance_le courier holder other left (Nat.le_of_lt less))
      obtain rfl := sound.owned holder other more some same
      rw [allow_allowance, if_pos rfl]
      omega
    · exact before
  · have before := sound.bounded number
    rw [countNumber_append]
    split
    · next same =>
      subst same
      omega
    · exact before

theorem keep (sound : courier.Sound limit) (holder : Holder) (content : Content)
    (allowance : Nat) (within : allowance ≤ limit) :
    Sound limit { courier with
      held := Function.update courier.held holder ⟨courier.issued + 1, content, allowance⟩
      issued := courier.issued + 1
      made := courier.made ++ [(courier.issued + 1, content)] } := by
  -- the number is new, so it is not that of any other holder and has not gone out
  have new (other : Holder) : (courier.held other).number ≠ courier.issued + 1 := by
    have below := sound.numbered other
    omega
  refine ⟨fun other => ?_, sound.counted_append content, sound.distinct_append content,
    fun parcel member => List.mem_append_left _ (sound.faithful parcel member),
    fun other more => ?_, fun one two more more' same => ?_, fun other more => ?_, sound.bounded⟩
  · dsimp only
    rw [Function.update_apply]
    split
    · exact le_rfl
    · exact sound.skip.numbered other
  · dsimp only at more ⊢
    rw [Function.update_apply] at more ⊢
    split at more
    · next is =>
      rw [if_pos is]
      exact List.mem_append_right _ (List.mem_singleton.mpr rfl)
    · next other' =>
      rw [if_neg other']
      exact List.mem_append_left _ (sound.kept other more)
  · dsimp only at more more' same
    rw [Function.update_apply] at more more' same
    rw [Function.update_apply] at same
    by_cases is : one = holder <;> by_cases is' : two = holder
    · rw [is, is']
    · rw [if_pos is, if_neg is'] at same
      exact absurd same.symm (new two)
    · rw [if_neg is, if_pos is'] at same
      exact absurd same (new one)
    · rw [if_neg is] at more same
      rw [if_neg is'] at more' same
      exact sound.owned one two more more' same
  · dsimp only at more ⊢
    rw [Function.update_apply] at more ⊢
    by_cases is : other = holder
    · rw [if_pos is]
      dsimp only
      rw [sound.fresh]
      omega
    · rw [if_neg is] at more ⊢
      exact sound.within other more

/-- **Every move keeps a courier sound.** -/
theorem step (sound : courier.Sound limit) (move : Step limit courier after) :
    after.Sound limit := by
  cases move with
  | lapse holder left less => exact sound.lapse holder left less
  | spend holder left less => exact sound.spend holder left less
  | skip => exact sound.skip
  | post content some => exact sound.post content some
  | keep holder content allowance within => exact sound.keep holder content allowance within

/-- So does every sequence of moves. -/
theorem steps (sound : courier.Sound limit)
    (moves : ReflTransGen (Step limit) courier after) : after.Sound limit := by
  induction moves with
  | refl => exact sound
  | tail _ move ih => exact ih.step move

/-- A holder never goes back to an earlier number. -/
theorem step_number_le (sound : courier.Sound limit) (move : Step limit courier after)
    (holder : Holder) : (courier.held holder).number ≤ (after.held holder).number := by
  cases move with
  | lapse other left less => rw [allow_number]
  | spend other left less =>
      dsimp only
      rw [allow_number]
  | skip | post => exact le_rfl
  | keep other content allowance within =>
      dsimp only
      rw [Function.update_apply]
      split
      · exact Nat.le_succ_of_le (sound.numbered holder)
      · exact le_rfl

theorem number_le (sound : courier.Sound limit) (moves : ReflTransGen (Step limit) courier after)
    (holder : Holder) : (courier.held holder).number ≤ (after.held holder).number := by
  induction moves with
  | refl => exact le_rfl
  | tail before move ih => exact Nat.le_trans ih ((sound.steps before).step_number_le move holder)

end Sound

namespace Recorded

theorem append (recorded : courier.Recorded) (content : Content) :
    ∀ parcel ∈ courier.made ++ [(courier.issued + 1, content)], 0 < parcel.1 := by
  intro parcel member
  rcases List.mem_append.mp member with old | new
  · exact recorded.positive parcel old
  · obtain rfl := List.mem_singleton.mp new
    exact Nat.succ_pos _

variable [DecidableEq Holder]

theorem step (recorded : courier.Recorded) (move : Step limit courier after) :
    after.Recorded := by
  cases move with
  | lapse holder left less =>
      refine ⟨recorded.positive, fun other => ?_⟩
      rw [allow_number, allow_content]
      exact recorded.held other
  | spend holder left less =>
      refine ⟨recorded.positive, fun other => ?_⟩
      dsimp only
      rw [allow_number, allow_content]
      exact recorded.held other
  | skip => exact ⟨recorded.positive, recorded.held⟩
  | post content some =>
      exact ⟨recorded.append content,
        fun holder numbered => List.mem_append_left _ (recorded.held holder numbered)⟩
  | keep holder content allowance within =>
      refine ⟨recorded.append content, fun other numbered => ?_⟩
      dsimp only at numbered ⊢
      rw [Function.update_apply] at numbered ⊢
      split at numbered
      · next is =>
        rw [if_pos is]
        exact List.mem_append_right _ (List.mem_singleton.mpr rfl)
      · next different =>
        rw [if_neg different]
        exact List.mem_append_left _ (recorded.held other numbered)

/-- **Every sequence of moves keeps the record.** -/
theorem steps (recorded : courier.Recorded)
    (moves : ReflTransGen (Step limit) courier after) : after.Recorded := by
  induction moves with
  | refl => exact recorded
  | tail _ move ih => exact ih.step move

end Recorded

namespace Dropped

variable {number : Nat} [DecidableEq Holder]

theorem step (dropped : courier.Dropped number) (move : Step limit courier after) :
    after.Dropped number := by
  have used := dropped.used
  cases move with
  | lapse holder left less =>
      refine ⟨used, fun other => ?_⟩
      rw [allow_number]
      exact dropped.unheld other
  | spend holder left less =>
      refine ⟨used, fun other => ?_⟩
      dsimp only
      rw [allow_number]
      exact dropped.unheld other
  | skip => exact ⟨Nat.le_succ_of_le used, dropped.unheld⟩
  | post content some => exact ⟨Nat.le_succ_of_le used, dropped.unheld⟩
  | keep holder content allowance within =>
      refine ⟨Nat.le_succ_of_le used, fun other => ?_⟩
      dsimp only
      rw [Function.update_apply]
      split
      · dsimp only
        omega
      · exact dropped.unheld other

/-- **A parcel that no holder has is never held again.** -/
theorem steps (dropped : courier.Dropped number)
    (moves : ReflTransGen (Step limit) courier after) : after.Dropped number := by
  induction moves with
  | refl => exact dropped
  | tail _ move ih => exact ih.step move

end Dropped

end Courier

end TinyHan.Lib
