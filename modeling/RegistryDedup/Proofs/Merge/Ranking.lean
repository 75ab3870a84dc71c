import RegistryDedup.Proofs.Merge.Choice
import RegistryDedup.Proofs.Time.Order

/-!
# The survivor as the one best member

With its place a member has a rank that it shares with no other, so there is just one best member of
a group. It is the survivor: neither the order of the counts nor the losers make a difference, and
the order of the members makes one only between members that a policy cannot tell apart.

- `BestPlace`: the place of an item with the best rank, of several the first one. A list has one at
  most (`BestPlace.unique`), and the first best item is at such a place (`FirstBest.exists_place`).
- `Policy.Best`, `Policy.Tied`: what that means for the members of a group.
- `select_best`: the survivor and the losers, and what makes no difference to them.
-/

namespace RegistryDedup

/-! ## Places -/

section Place

variable {α β : Type} [LinearOrder β] {rank : α → β} {better : α → α → Bool}
  {xs rest : List α} {y : α} {p q : Nat}

/-- A place whose item has a better rank than every other item, or the same one and comes first. The
smaller a rank is the better. -/
def BestPlace (rank : α → β) (xs : List α) (p : Nat) : Prop :=
  ∃ x, xs[p]? = some x ∧ ∀ q z, xs[q]? = some z → q ≠ p → toLex (rank x, p) < toLex (rank z, q)

theorem BestPlace.unique (hp : BestPlace rank xs p) (hq : BestPlace rank xs q) : q = p := by
  obtain ⟨x, hx, hbest⟩ := hp
  obtain ⟨z, hz, hbest'⟩ := hq
  by_contra hne
  exact lt_asymm (hbest q z hz hne) (hbest' p x hx (Ne.symm hne))

/-- No item has a better rank than the one at the best place. -/
theorem BestPlace.le {x : α} (hp : BestPlace rank xs p) (hx : xs[p]? = some x) :
    ∀ z ∈ xs, rank x ≤ rank z := by
  obtain ⟨x', hx', hbest⟩ := hp
  obtain rfl : x = x' := Option.some.inj (hx.symm.trans hx')
  intro z hz
  obtain ⟨q, hq⟩ := List.getElem?_of_mem hz
  by_cases hne : q = p
  · subst hne
    exact (congrArg rank (Option.some.inj (hx.symm.trans hq))).le
  · rcases Prod.Lex.toLex_lt_toLex.mp (hbest q z hq hne) with hlt | ⟨heq, -⟩
    · exact hlt.le
    · exact heq.le

/-- The first best item is at the best place. It stays the first best one without some of those that
come before and after it. -/
theorem FirstBest.exists_place (hrank : ∀ a b, better a b = true ↔ rank a < rank b)
    (h : FirstBest better xs y rest) :
    ∃ p, xs[p]? = some y ∧ rest = xs.eraseIdx p ∧ BestPlace rank xs p ∧
      ∀ front back, front.Sublist (xs.take p) → back.Sublist (xs.drop (p + 1)) →
        FirstBest better (front ++ y :: back) y (front ++ back) := by
  obtain ⟨front, back, rfl, rfl, hfront, hback⟩ := h
  have hat : (front ++ y :: back)[front.length]? = some y := by simp
  refine ⟨front.length, hat, by simp [List.eraseIdx_append], ⟨y, hat, ?best⟩, ?sublists⟩
  case best =>
    intro q z hz hne
    rw [Prod.Lex.toLex_lt_toLex]
    rcases Nat.lt_or_gt_of_ne hne with hlt | hgt
    · rw [List.getElem?_append_left hlt] at hz
      exact .inl ((hrank y z).mp (hfront z (List.mem_of_getElem? hz)))
    · have hmem : z ∈ back := by
        rw [List.getElem?_append_right hgt.le, List.getElem?_cons,
          if_neg (Nat.sub_pos_of_lt hgt).ne'] at hz
        exact List.mem_of_getElem? hz
      have hle : rank y ≤ rank z := by
        rw [← not_lt, ← hrank, hback z hmem]
        exact Bool.false_ne_true
      exact hle.lt_or_eq.imp_right fun heq => ⟨heq, hgt⟩
  case sublists =>
    intro front' back' hfront' hback'
    rw [List.take_left] at hfront'
    have hdrop : (front ++ y :: back).drop (front.length + 1) = back := by simp
    rw [hdrop] at hback'
    exact ⟨front', back', rfl, rfl, fun x hx => hfront x (hfront'.subset hx),
      fun x hx => hback x (hback'.subset hx)⟩

end Place

/-! ## Members -/

variable {policy : Policy} {members : List Entity} {counts counts' : List RefCount}
  {sel sel' : Selection} {p : Nat}

namespace Policy

/-- The place of the best member of a group. With `mostReferenced` that is the one with the highest
total, and of several the one that was created first; with `mostRecent` it is the one that was
created last. Under both an unknown time of creation comes after all others, and of members that are
alike in this the first one is the best. -/
def Best : Policy → List RefCount → List Entity → Nat → Prop
  | mostReferenced, counts => BestPlace (referencedRank counts)
  | mostRecent, _ => BestPlace recentRank

/-- Members that a policy cannot tell apart but by their places. -/
def Tied : Policy → List RefCount → Entity → Entity → Prop
  | mostReferenced, counts, a, b =>
    totalOf counts a.id = totalOf counts b.id ∧ a.created = b.created
  | mostRecent, _, a, b => a.created = b.created

end Policy

theorem createdOrLast_injective : Function.Injective createdOrLast := by
  rintro (_ | s) (_ | t) heq
  · rfl
  · exact absurd heq.symm WithTop.coe_ne_top
  · exact absurd heq WithTop.coe_ne_top
  · rw [Instant.rank_injective (WithTop.coe_inj.mp heq)]

theorem createdOrFirst_injective : Function.Injective createdOrFirst := by
  rintro (_ | s) (_ | t) heq
  · rfl
  · exact absurd heq.symm WithBot.coe_ne_bot
  · exact absurd heq WithBot.coe_ne_bot
  · rw [Instant.rank_injective (WithBot.coe_inj.mp heq)]

theorem Policy.Best.unique {q : Nat} (hp : policy.Best counts members p)
    (hq : policy.Best counts members q) : q = p := by
  cases policy with
  | mostReferenced => exact BestPlace.unique hp hq
  | mostRecent => exact BestPlace.unique hp hq

/-- Two members that are both no worse than the other are tied. -/
theorem tied_of_best {members' : List Entity} {a b : Entity} {q : Nat}
    (hp : policy.Best counts members p) (ha : members[p]? = some a)
    (hq : policy.Best counts members' q) (hb : members'[q]? = some b)
    (hperm : members.Perm members') : policy.Tied counts a b := by
  have ha' := hperm.mem_iff.mp (List.mem_of_getElem? ha)
  have hb' := hperm.mem_iff.mpr (List.mem_of_getElem? hb)
  cases policy with
  | mostReferenced =>
    have heq := le_antisymm (BestPlace.le hp ha b hb') (BestPlace.le hq hb a ha')
    obtain ⟨htotal, hcreated⟩ := Prod.mk.inj (toLex_inj.mp heq)
    exact ⟨OrderDual.toDual_inj.mp htotal, createdOrLast_injective hcreated⟩
  | mostRecent =>
    have heq := le_antisymm (BestPlace.le hp ha b hb') (BestPlace.le hq hb a ha')
    exact createdOrFirst_injective (OrderDual.toDual_inj.mp heq)

/-! ## Selections -/

/-- The survivor of a group is its one best member, and the losers are the others in their order. -/
structure SurvivorAt (policy : Policy) (counts : List RefCount) (members : List Entity)
    (sel : Selection) (p : Nat) : Prop where
  keep : members[p]? = some sel.keep
  losers : sel.losers = members.eraseIdx p
  best : policy.Best counts members p
  unique : ∀ q, policy.Best counts members q → q = p

/-- The first best member is the one that is selected. -/
theorem select_eq_of_firstBest {y : Entity} {rest : List Entity}
    (h : FirstBest (prefers policy counts) members y rest) :
    select policy members counts = some ⟨y, rest⟩ := by
  have hne : members ≠ [] := by
    obtain ⟨front, back, rfl, -⟩ := h
    simp
  obtain ⟨sel, hsel⟩ := exists_select policy counts hne
  obtain ⟨rfl, rfl⟩ := (select_firstBest hsel).unique h
  exact hsel

theorem select_survivorAt (h : select policy members counts = some sel) :
    ∃ p, SurvivorAt policy counts members sel p ∧
      ∀ front back, front.Sublist (members.take p) → back.Sublist (members.drop (p + 1)) →
        select policy (front ++ sel.keep :: back) counts = some ⟨sel.keep, front ++ back⟩ := by
  have hfirst := select_firstBest h
  have hplace : ∃ p, members[p]? = some sel.keep ∧ sel.losers = members.eraseIdx p ∧
      policy.Best counts members p ∧
      ∀ front back, front.Sublist (members.take p) → back.Sublist (members.drop (p + 1)) →
        FirstBest (prefers policy counts) (front ++ sel.keep :: back) sel.keep (front ++ back) := by
    cases policy with
    | mostReferenced => exact hfirst.exists_place (prefers_mostReferenced_iff counts)
    | mostRecent => exact hfirst.exists_place (prefers_mostRecent_iff counts)
  obtain ⟨p, hkeep, hlosers, hbest, hsublists⟩ := hplace
  refine ⟨p, ⟨hkeep, hlosers, hbest, fun q => hbest.unique⟩, fun front back hfront hback => ?_⟩
  exact select_eq_of_firstBest (hsublists front back hfront hback)

/-- A policy looks at the totals of counts and at nothing else of them. -/
theorem select_congr (h : totalOf counts' = totalOf counts) :
    select policy members counts' = select policy members counts := by
  have hprefers : prefers policy counts' = prefers policy counts := by
    unfold prefers
    rw [h]
  rw [select, select, hprefers]

/-- Each group with a member has a survivor, which is its one best member. The total of an id is
that of its last count, or zero if it is not counted. The most recent member does not depend on the
counts, and no survivor on their order. Members in another order have the same survivor or one that
is tied with it, and without some of the losers the survivor stays the same. -/
theorem select_best (policy : Policy) (counts : List RefCount) (hmembers : members ≠ []) :
    ∃ sel p, select policy members counts = some sel ∧ SurvivorAt policy counts members sel p ∧
      (∀ id, (∀ c ∈ counts, c.id ≠ id) → totalOf counts id = 0) ∧
      (∀ before c after, counts = before ++ c :: after → (∀ d ∈ after, d.id ≠ c.id) →
        totalOf counts c.id = c.total) ∧
      (policy = .mostRecent → ∀ counts', select policy members counts' = some sel) ∧
      (∀ counts', counts.Perm counts' → (counts.map (·.id)).Nodup →
        select policy members counts' = some sel) ∧
      (∀ members', members.Perm members' → ∃ sel', select policy members' counts = some sel' ∧
        policy.Tied counts sel.keep sel'.keep) ∧
      ∀ front back, front.Sublist (members.take p) → back.Sublist (members.drop (p + 1)) →
        select policy (front ++ sel.keep :: back) counts = some ⟨sel.keep, front ++ back⟩ := by
  obtain ⟨sel, hsel⟩ := exists_select policy counts hmembers
  obtain ⟨p, hp, hsublists⟩ := select_survivorAt hsel
  refine ⟨sel, p, hsel, hp, fun id => totalOf_eq_zero, ?last, ?recent, ?counts, ?order, hsublists⟩
  case last =>
    rintro before c after rfl hlast
    exact totalOf_of_last hlast
  case recent =>
    rintro rfl counts'
    exact hsel
  case counts =>
    intro counts' hperm hids
    rw [select_congr (totalOf_perm hperm hids), hsel]
  case order =>
    intro members' hperm
    have hne : members' ≠ [] := fun hnil => hmembers (List.perm_nil.mp (hnil ▸ hperm))
    obtain ⟨sel', hsel'⟩ := exists_select policy counts hne
    obtain ⟨q, hq, -⟩ := select_survivorAt hsel'
    exact ⟨sel', hsel', tied_of_best hp.best hp.keep hq.best hq.keep hperm⟩

namespace RankingSample

/-- The morning of a day in June. -/
def morningOf (day : Nat) (hday : isDate 2023 6 day = true) : Option Instant :=
  some ⟨⟨2023, 6, day, hday⟩, 28800, 125000000, by decide, by decide⟩

/-- The last two regions were created at the same time. -/
def regions : List Entity :=
  [⟨"r1", "Foo", morningOf 5 (by decide)⟩, ⟨"r2", "foo", none⟩,
    ⟨"r3", "FOO", morningOf 2 (by decide)⟩, ⟨"r4", "foo", morningOf 2 (by decide)⟩]

/-- The first region has one reference less than the others. -/
def references : List RefCount :=
  [⟨"r4", 3, []⟩, ⟨"r3", 3, []⟩, ⟨"r2", 3, []⟩, ⟨"r1", 2, []⟩]

end RankingSample

/-- The third region is kept, and the fourth one where the members are turned round. -/
theorem select_best_sample : RankingSample.regions ≠ [] ∧
    ∃ sel p, select .mostReferenced RankingSample.regions RankingSample.references = some sel ∧
      sel.keep.id = "r3" ∧ sel.loserIds = ["r1", "r2", "r4"] ∧
      SurvivorAt .mostReferenced RankingSample.references RankingSample.regions sel p ∧
      select .mostReferenced RankingSample.regions RankingSample.references.reverse = some sel ∧
      ∃ sel', select .mostReferenced RankingSample.regions.reverse RankingSample.references =
          some sel' ∧
        sel'.keep.id = "r4" ∧
        Policy.Tied .mostReferenced RankingSample.references sel.keep sel'.keep := by
  have hmembers : RankingSample.regions ≠ [] := by decide
  obtain ⟨sel, p, hsel, hp, -, -, -, hcounts, horder, -⟩ :=
    select_best .mostReferenced RankingSample.references hmembers
  obtain ⟨sel', hsel', htied⟩ := horder _ (List.reverse_perm _).symm
  have hids : (select .mostReferenced RankingSample.regions RankingSample.references).map
      (fun s => (s.keep.id, s.loserIds)) = some ("r3", ["r1", "r2", "r4"]) := by
    decide +kernel
  have hids' : (select .mostReferenced RankingSample.regions.reverse RankingSample.references).map
      (·.keep.id) = some "r4" := by
    decide +kernel
  rw [hsel] at hids
  rw [hsel'] at hids'
  obtain ⟨hkeep, hlosers⟩ := Prod.mk.inj (Option.some.inj hids)
  exact ⟨hmembers, sel, p, hsel, hkeep, hlosers, hp,
    hcounts _ (List.reverse_perm _).symm (by decide), sel', hsel', Option.some.inj hids', htied⟩

end RegistryDedup
