import Mathlib
import RegistryDedup.Proofs.Merge.Survivor

/-!
# Which member is kept

A policy ranks the members of a group, and the first of those with the best rank is kept. It stays
the choice when other members are gone, and when the ranks of the others fall behind its own.

- `FirstBest`: the first best item of a list, and the other items. `extractBest_firstBest` finds it
  where "better" compares ranks; `FirstBest.unique` says that there is just one.
- `referencedRank`, `recentRank`: the ranks that the policies compare.
- `select_again`: the same member is kept in a smaller group with new counts, if these tell that all
  references have come to it.
-/

namespace RegistryDedup

/-! ## The first best item -/

section FirstBest

variable {α β : Type} {better better' : α → α → Bool} {xs rest rest' : List α} {y y' : α}

/-- An item of a list that is better than all before it, and than which none after it is better;
with all other items in their order. -/
def FirstBest (better : α → α → Bool) (xs : List α) (y : α) (rest : List α) : Prop :=
  ∃ front back, xs = front ++ y :: back ∧ rest = front ++ back ∧
    (∀ x ∈ front, better y x = true) ∧ ∀ x ∈ back, better x y = false

/-- Where "better" is transitive, and "not better" too, it is the first best item that a list is
split at. -/
theorem extractBest_firstBest_of_trans
    (htrans : ∀ a b c, better a b = true → better b c = true → better a c = true)
    (hnot : ∀ a b c, better a b = false → better b c = false → better a c = false)
    (h : extractBest better xs = some (y, rest)) : FirstBest better xs y rest := by
  induction xs generalizing y rest with
  | nil => cases h
  | cons x xs ih =>
    rw [extractBest] at h
    cases hxs : extractBest better xs with
    | none =>
      rw [hxs] at h
      cases h
      rw [extractBest_eq_none.mp hxs]
      exact ⟨[], [], rfl, rfl, by simp, by simp⟩
    | some best =>
      obtain ⟨z, others⟩ := best
      obtain ⟨front, back, hsplit, hothers, hfront, hback⟩ := ih hxs
      rw [hxs] at h
      dsimp only at h
      split at h
      · next hbetter =>
        cases h
        refine ⟨x :: front, back, by rw [hsplit]; rfl, by rw [hothers]; rfl, ?_, hback⟩
        exact List.forall_mem_cons.mpr ⟨hbetter, hfront⟩
      · next hworse =>
        -- The best of the others is no better than the first item, and all others are no better
        -- than that.
        cases h
        rw [Bool.not_eq_true] at hworse
        refine ⟨[], xs, rfl, rfl, by simp, fun w hw => ?_⟩
        rw [hsplit, List.mem_append, List.mem_cons] at hw
        rcases hw with hw | rfl | hw
        · rw [← Bool.not_eq_true]
          intro hbetter
          exact Bool.false_ne_true (hworse.symm.trans (htrans _ _ _ (hfront w hw) hbetter))
        · exact hworse
        · exact hnot _ _ _ (hback w hw) hworse

theorem extractBest_firstBest [LinearOrder β] {rank : α → β}
    (hrank : ∀ a b, better a b = true ↔ rank a < rank b)
    (h : extractBest better xs = some (y, rest)) : FirstBest better xs y rest := by
  refine extractBest_firstBest_of_trans (fun a b c => ?_) (fun a b c => ?_) h
  · rw [hrank, hrank, hrank]
    exact lt_trans
  · simp only [← Bool.not_eq_true, hrank, not_lt]
    exact fun hab hbc => hbc.trans hab

/-- A list has only one first best item. -/
theorem FirstBest.unique (h : FirstBest better xs y rest) (h' : FirstBest better xs y' rest') :
    y = y' ∧ rest = rest' := by
  obtain ⟨front, back, rfl, rfl, hfront, hback⟩ := h
  obtain ⟨front', back', heq, rfl, hfront', hback'⟩ := h'
  -- One of the two would be both better and no better than the other if it came later.
  have hlater : ∀ {a b : α} {before after : List α}, (∀ x ∈ before, better a x = true) →
      (∀ x ∈ after, better x b = false) → b ∈ before → a ∈ after → False := by
    intro a b before after hbefore hafter hb ha
    exact Bool.false_ne_true ((hafter a ha).symm.trans (hbefore b hb))
  rcases List.append_eq_append_iff.mp heq with ⟨mid, hmid, htail⟩ | ⟨mid, hmid, htail⟩
  · cases mid with
    | nil =>
      rw [List.append_nil] at hmid
      obtain ⟨rfl, rfl⟩ := List.cons.inj htail
      exact ⟨rfl, by rw [hmid]⟩
    | cons z mid =>
      obtain ⟨rfl, rfl⟩ := List.cons.inj htail
      exact (hlater hfront' hback (by simp [hmid]) (by simp)).elim
  · cases mid with
    | nil =>
      rw [List.append_nil] at hmid
      obtain ⟨rfl, rfl⟩ := List.cons.inj htail
      exact ⟨rfl, by rw [hmid]⟩
    | cons z mid =>
      obtain ⟨rfl, rfl⟩ := List.cons.inj htail
      exact (hlater hfront hback' (by simp [hmid]) (by simp)).elim

/-- The first best item stays so among some of the items. -/
theorem FirstBest.filter (h : FirstBest better xs y rest) {p : α → Bool} (hp : p y = true) :
    FirstBest better (xs.filter p) y (rest.filter p) := by
  obtain ⟨front, back, rfl, rfl, hfront, hback⟩ := h
  refine ⟨front.filter p, back.filter p, by simp [hp], by simp, ?_, ?_⟩
  · exact fun x hx => hfront x (List.mem_of_mem_filter hx)
  · exact fun x hx => hback x (List.mem_of_mem_filter hx)

/-- The first best item stays so where all others fall behind. -/
theorem FirstBest.mono (h : FirstBest better xs y rest)
    (hbetter : ∀ x ∈ rest, better y x = true → better' y x = true)
    (hworse : ∀ x ∈ rest, better x y = false → better' x y = false) :
    FirstBest better' xs y rest := by
  obtain ⟨front, back, hxs, rfl, hfront, hback⟩ := h
  refine ⟨front, back, hxs, rfl, fun x hx => ?_, fun x hx => ?_⟩
  · exact hbetter x (List.mem_append_left _ hx) (hfront x hx)
  · exact hworse x (List.mem_append_right _ hx) (hback x hx)

end FirstBest

/-! ## Ranks -/

/-- The rank of a time of creation; an unknown one comes after all others. -/
def createdOrLast : Option Instant → WithTop Int
  | none => ⊤
  | some s => (s.rank : WithTop Int)

/-- The rank of a time of creation; an unknown one comes before all others. -/
def createdOrFirst : Option Instant → WithBot Int
  | none => ⊥
  | some s => (s.rank : WithBot Int)

/-- The more references the better, and then the earlier the better. -/
def referencedRank (counts : List RefCount) (e : Entity) : Natᵒᵈ ×ₗ WithTop Int :=
  toLex (OrderDual.toDual (totalOf counts e.id), createdOrLast e.created)

/-- The later the better. -/
def recentRank (e : Entity) : (WithBot Int)ᵒᵈ :=
  OrderDual.toDual (createdOrFirst e.created)

theorem earlierCreated_iff (a b : Option Instant) :
    earlierCreated a b = true ↔ createdOrLast a < createdOrLast b := by
  rcases a with _ | a
  · exact iff_of_false Bool.false_ne_true not_top_lt
  · rcases b with _ | b
    · exact iff_of_true rfl (WithTop.coe_lt_top _)
    · exact decide_eq_true_iff.trans WithTop.coe_lt_coe.symm

theorem laterCreated_iff (a b : Option Instant) :
    laterCreated a b = true ↔ createdOrFirst b < createdOrFirst a := by
  rcases a with _ | a
  · exact iff_of_false Bool.false_ne_true not_lt_bot
  · rcases b with _ | b
    · exact iff_of_true rfl (WithBot.bot_lt_coe _)
    · exact decide_eq_true_iff.trans WithBot.coe_lt_coe.symm

theorem prefers_mostReferenced_iff (counts : List RefCount) (a b : Entity) :
    prefers .mostReferenced counts a b = true ↔
      referencedRank counts a < referencedRank counts b := by
  rw [referencedRank, referencedRank, Prod.Lex.toLex_lt_toLex, prefers]
  simp only [Bool.or_eq_true, decide_eq_true_eq, Bool.and_eq_true, beq_iff_eq,
    earlierCreated_iff, OrderDual.toDual_lt_toDual, OrderDual.toDual_inj]
  exact or_congr_right (and_congr_left' eq_comm)

theorem prefers_mostRecent_iff (counts : List RefCount) (a b : Entity) :
    prefers .mostRecent counts a b = true ↔ recentRank a < recentRank b := by
  rw [recentRank, recentRank, OrderDual.toDual_lt_toDual, prefers, laterCreated_iff]

/-! ## Selections -/

/-- The member that is kept is the first best one. -/
theorem select_firstBest {policy : Policy} {members : List Entity} {counts : List RefCount}
    {sel : Selection} (h : select policy members counts = some sel) :
    FirstBest (prefers policy counts) members sel.keep sel.losers := by
  obtain ⟨⟨keep, losers⟩, hbest, rfl⟩ := Option.map_eq_some_iff.mp h
  cases policy with
  | mostReferenced => exact extractBest_firstBest (prefers_mostReferenced_iff counts) hbest
  | mostRecent => exact extractBest_firstBest (prefers_mostRecent_iff counts) hbest

theorem prefers_of_none {counts : List RefCount} {a b : Entity} (ha : totalOf counts a.id = 0)
    (hb : totalOf counts b.id = 0) :
    prefers .mostReferenced counts a b = earlierCreated a.created b.created := by
  simp [prefers, ha, hb]

/-- The same member is kept in a smaller group with new counts, if these tell that all references
have come to it: the other members have none, and where it has none itself there never were any. -/
theorem select_again {policy : Policy} {members : List Entity} {counts counts' : List RefCount}
    {sel sel' : Selection} {p : Entity → Bool} (h : select policy members counts = some sel)
    (h' : select policy (members.filter p) counts' = some sel') (hp : p sel.keep = true)
    (hothers : policy.needsCounts = true → ∀ e ∈ sel.losers.filter p, totalOf counts' e.id = 0)
    (hnone : policy.needsCounts = true → totalOf counts' sel.keep.id = 0 →
      totalOf counts sel.keep.id = 0 ∧ ∀ e ∈ sel.losers, totalOf counts e.id = 0) :
    sel'.keep = sel.keep ∧ sel'.losers = sel.losers.filter p := by
  have hbest : FirstBest (prefers policy counts') (members.filter p) sel.keep
      (sel.losers.filter p) := by
    cases policy with
    | mostRecent => exact (select_firstBest h).filter hp
    | mostReferenced =>
      -- Where there are no references, nothing but the time of creation makes a difference.
      have hsame : totalOf counts' sel.keep.id = 0 → ∀ e ∈ sel.losers.filter p,
          prefers .mostReferenced counts' sel.keep e = prefers .mostReferenced counts sel.keep e ∧
          prefers .mostReferenced counts' e sel.keep =
            prefers .mostReferenced counts e sel.keep := by
        intro hkeep e he
        obtain ⟨hkeep', hlosers⟩ := hnone rfl hkeep
        have he' := hlosers e (List.mem_of_mem_filter he)
        simp only [prefers_of_none hkeep (hothers rfl e he), prefers_of_none hkeep' he',
          prefers_of_none (hothers rfl e he) hkeep, prefers_of_none he' hkeep', and_self]
      refine ((select_firstBest h).filter hp).mono (fun e he hbetter => ?_) fun e he hworse => ?_
      · by_cases hkeep : totalOf counts' sel.keep.id = 0
        · rw [(hsame hkeep e he).1, hbetter]
        · simp [prefers, hothers rfl e he, Nat.pos_of_ne_zero hkeep]
      · by_cases hkeep : totalOf counts' sel.keep.id = 0
        · rw [(hsame hkeep e he).2, hworse]
        · simp [prefers, hothers rfl e he, hkeep]
  exact (select_firstBest h').unique hbest

end RegistryDedup
