import Mathlib
import WalletConsole.Proofs.Listing.Order

/-!
# Up and down

A list that is sorted by a column falls into groups of rows that are equal there. When it is sorted
the other way, the groups come in the opposite order, and within a group nothing changes places. So
sorting downwards is not sorting upwards and turning the list round: the rows would have to be turned
round before that, too.

* `tiedGroups` — the groups of a sorted list
* `eq_filter_of_mem_tiedGroups` — a group is what is tied with one of its rows, as it was
* `sortRows_flip`, `tiedGroups_flip` — the other direction
* `lists_turn_round` — each of the four lists
-/

namespace WalletConsole

/-! ## Groups of tied rows -/

section Groups

variable {R : Type} {cmp : R → R → Ordering}

/-- The sorted rows, cut wherever a row is not tied with the next. -/
def tiedGroups (cmp : R → R → Ordering) (rows : List R) : List (List R) :=
  (sortRows cmp rows).splitBy (isTied cmp)

theorem flatten_tiedGroups (rows : List R) : (tiedGroups cmp rows).flatten = sortRows cmp rows :=
  List.flatten_splitBy _ _

theorem lt_of_isLE_of_not_tied {a b : R} (hle : (cmp a b).isLE = true)
    (hcut : isTied cmp a b = false) : cmp a b = .lt := by
  rcases Ordering.isLE_iff_eq_lt_or_eq_eq.mp hle with hlt | heq
  · exact hlt
  · rw [isTied_iff.mpr heq] at hcut
    cases hcut

theorem filter_isTied_eq_nil {rows : List R} {a : R}
    (h : ∀ b ∈ rows, isTied cmp a b = false) : rows.filter (isTied cmp a) = [] :=
  List.filter_eq_nil_iff.mpr fun b hb => Bool.eq_false_iff.mp (h b hb)

variable [Std.TransCmp cmp]

/-- Rows in chains of ties are all tied. -/
theorem isTied_of_mem_tiedGroups {rows group : List R} (hgroup : group ∈ tiedGroups cmp rows)
    {a b : R} (ha : a ∈ group) (hb : b ∈ group) : isTied cmp a b = true := by
  have htrans : IsTrans R fun a b => isTied cmp a b = true := by
    refine ⟨fun a b c hab hbc => ?_⟩
    have hba : isTied cmp b a = true := isTied_of_tied hab (isTied_self a)
    exact isTied_of_tied hba hbc
  have hall : group.Pairwise fun a b => isTied cmp a b = true :=
    List.isChain_iff_pairwise.mp (List.isChain_of_mem_splitBy hgroup)
  obtain ⟨first, rest, rfl⟩ := List.exists_cons_of_ne_nil (List.ne_nil_of_mem ha)
  have hfirst : ∀ c ∈ first :: rest, isTied cmp first c = true := by
    intro c hc
    rcases List.mem_cons.mp hc with rfl | hmem
    · exact isTied_self c
    · exact (List.pairwise_cons.mp hall).1 c hmem
  exact isTied_of_tied (hfirst a ha) (hfirst b hb)

/-- In rows that are in order, a cut between rows that are not tied parts lower from higher rows. -/
theorem pairwise_lt_of_cuts {groups : List (List R)}
    (hordered : groups.flatten.Pairwise fun a b => (cmp a b).isLE = true)
    (hcuts : groups.IsChain fun g h => ∃ hg hh, isTied cmp (g.getLast hg) (h.head hh) = false) :
    groups.Pairwise fun g h => ∀ a ∈ g, ∀ b ∈ h, cmp a b = .lt := by
  induction groups with
  | nil => exact .nil
  | cons g groups ih =>
    rw [List.flatten_cons, List.pairwise_append] at hordered
    obtain ⟨hg, hrest, hacross⟩ := hordered
    refine List.pairwise_cons.mpr ⟨?_, ih hrest hcuts.tail⟩
    intro h hh a ha b hb
    cases groups with
    | nil => exact absurd hh List.not_mem_nil
    | cons next groups =>
      obtain ⟨⟨hg0, hnext, hcut⟩, -⟩ := List.isChain_cons_cons.mp hcuts
      obtain ⟨y, ys, rfl⟩ := List.exists_cons_of_ne_nil hnext
      -- a row is not after the last of its group, which is before the first of the next group
      have hlast : (cmp a (g.getLast hg0)).isLE = true :=
        hg.rel_getLast_of_rel_getLast_getLast ha (isLE_of_tied (isTied_self _) (isTied_self _))
      have hstep : cmp (g.getLast hg0) y = .lt :=
        lt_of_isLE_of_not_tied (hacross _ (List.getLast_mem hg0) y (by simp)) hcut
      have hfirst : (cmp y b).isLE = true :=
        head_isLE hrest (List.mem_flatten.mpr ⟨h, hh, hb⟩)
      exact Std.TransCmp.lt_of_isLE_of_lt hlast (Std.TransCmp.lt_of_lt_of_isLE hstep hfirst)

theorem tiedGroups_pairwise_lt (rows : List R) :
    (tiedGroups cmp rows).Pairwise fun g h => ∀ a ∈ g, ∀ b ∈ h, cmp a b = .lt := by
  refine pairwise_lt_of_cuts ?_ (List.isChain_getLast_head_splitBy _ _)
  rw [flatten_tiedGroups]
  exact sortRows_ordered rows

theorem not_tied_of_lt {a b c : R} (ha : isTied cmp c a = true) (hlt : cmp a b = .lt) :
    isTied cmp c b = false := by
  rw [Bool.eq_false_iff]
  intro hb
  rw [isTied_iff.mp (isTied_of_tied ha hb)] at hlt
  cases hlt

theorem not_tied_of_gt {a b : R} (hlt : cmp b a = .lt) : isTied cmp a b = false := by
  have hgt : cmp a b = .gt := Std.OrientedCmp.gt_of_lt hlt
  rw [isTied, hgt]
  rfl

section Parted

variable {groups : List (List R)}
  (hparted : groups.Pairwise fun g h => ∀ a ∈ g, ∀ b ∈ h, cmp a b = .lt)
include hparted

/-- Rows are tied with the rows of one group at most, so it does not matter which comes first. -/
theorem filter_flatten_reverse (c : R) :
    groups.reverse.flatten.filter (isTied cmp c) = groups.flatten.filter (isTied cmp c) := by
  induction groups with
  | nil => rfl
  | cons g groups ih =>
    obtain ⟨hfirst, hrest⟩ := List.pairwise_cons.mp hparted
    rw [List.reverse_cons, List.flatten_append, List.filter_append, ih hrest, List.flatten_singleton,
      List.flatten_cons, List.filter_append]
    by_cases hnone : g.filter (isTied cmp c) = []
    · rw [hnone, List.append_nil, List.nil_append]
    · obtain ⟨a, ha⟩ := List.exists_mem_of_ne_nil _ hnone
      obtain ⟨hag, htied⟩ := List.mem_filter.mp ha
      have hothers : groups.flatten.filter (isTied cmp c) = [] := by
        refine filter_isTied_eq_nil fun b hb => ?_
        obtain ⟨h, hh, hbh⟩ := List.mem_flatten.mp hb
        exact not_tied_of_lt htied (hfirst h hh a hag b hbh)
      rw [hothers, List.append_nil, List.nil_append]

/-- What is tied with a row is the group of the row. -/
theorem filter_flatten_eq_group (hties : ∀ g ∈ groups, ∀ a ∈ g, ∀ b ∈ g, isTied cmp a b = true)
    {group : List R} (hgroup : group ∈ groups) {a : R} (ha : a ∈ group) :
    groups.flatten.filter (isTied cmp a) = group := by
  obtain ⟨before, after, rfl⟩ := List.append_of_mem hgroup
  obtain ⟨-, hafter, hbefore⟩ := List.pairwise_append.mp hparted
  have hself : group.filter (isTied cmp a) = group :=
    List.filter_eq_self.mpr (hties group hgroup a ha)
  have hlower : before.flatten.filter (isTied cmp a) = [] := by
    refine filter_isTied_eq_nil fun b hb => ?_
    obtain ⟨g, hg, hbg⟩ := List.mem_flatten.mp hb
    exact not_tied_of_gt (hbefore g hg group List.mem_cons_self b hbg a ha)
  have hhigher : after.flatten.filter (isTied cmp a) = [] := by
    refine filter_isTied_eq_nil fun b hb => ?_
    obtain ⟨g, hg, hbg⟩ := List.mem_flatten.mp hb
    exact not_tied_of_lt (isTied_self a) ((List.pairwise_cons.mp hafter).1 g hg a ha b hbg)
  rw [List.flatten_append, List.flatten_cons, List.filter_append, List.filter_append, hlower, hself,
    hhigher, List.nil_append, List.append_nil]

end Parted

/-- A group is precisely what is tied with one of its rows, in its old places. -/
theorem eq_filter_of_mem_tiedGroups {rows group : List R} (hgroup : group ∈ tiedGroups cmp rows)
    {a : R} (ha : a ∈ group) : group = rows.filter (isTied cmp a) := by
  rw [← sortRows_ties, ← flatten_tiedGroups]
  exact (filter_flatten_eq_group (tiedGroups_pairwise_lt rows)
    (fun _ hg _ ha _ hb => isTied_of_mem_tiedGroups hg ha hb) hgroup ha).symm

end Groups

/-! ## The other direction -/

section Flip

variable {R : Type} [Record R] [OrderedRecord R] (direction : Direction)
  (column : Record.Column R)

theorem rowOrder_flip (a b : R) :
    rowOrder direction.flip column a b = rowOrder direction column b a := by
  cases direction with
  | asc => exact Std.OrientedCmp.eq_swap.symm
  | desc => exact Std.OrientedCmp.eq_swap

/-- Rows that are tied are so in both directions. -/
theorem isTied_flip : isTied (rowOrder direction.flip column) = isTied (rowOrder direction column) := by
  funext a b
  rw [Bool.eq_iff_iff, isTied_iff, isTied_iff, rowOrder_flip]
  exact Std.OrientedCmp.eq_comm

/-- Rows in the order of one direction are in the other if they are turned round. -/
theorem ordered_reverse {rows : List R}
    (h : rows.Pairwise fun a b => (rowOrder direction column a b).isLE = true) :
    rows.reverse.Pairwise fun a b => (rowOrder direction.flip column a b).isLE = true := by
  simp only [rowOrder_flip]
  exact List.pairwise_reverse.mpr h

/-- Sorting the other way is sorting the rows from the back, and turning round what comes out. -/
theorem sortRows_flip (rows : List R) : sortRows (rowOrder direction.flip column) rows =
    (sortRows (rowOrder direction column) rows.reverse).reverse := by
  have hperm : (sortRows (rowOrder direction column) rows.reverse).reverse.Perm rows :=
    (List.reverse_perm _).trans ((sortRows_perm _).trans (List.reverse_perm rows))
  refine eq_of_ordered_of_ties ((sortRows_perm rows).trans hperm.symm) (sortRows_ordered rows)
    (ordered_reverse direction column (sortRows_ordered _)) fun a => ?_
  rw [sortRows_ties, isTied_flip, List.filter_reverse, sortRows_ties, List.filter_reverse,
    List.reverse_reverse]

/-- The groups of one direction, the last of them first, are in the order of the other. -/
theorem ordered_groups_reverse (rows : List R) :
    (tiedGroups (rowOrder direction column) rows).reverse.flatten.Pairwise
      fun a b => (rowOrder direction.flip column a b).isLE = true := by
  simp only [rowOrder_flip]
  refine List.pairwise_flatten.mpr ⟨fun group hgroup => ?_, List.pairwise_reverse.mpr ?_⟩
  · refine List.pairwise_of_forall_mem_list fun a ha b hb => ?_
    have htied := isTied_of_mem_tiedGroups (List.mem_reverse.mp hgroup) hb ha
    rw [isTied_iff.mp htied]
    rfl
  · refine (tiedGroups_pairwise_lt rows).imp fun hlt b hb a ha => ?_
    rw [hlt a ha b hb]
    rfl

theorem flatten_reverse_tiedGroups (rows : List R) :
    (tiedGroups (rowOrder direction column) rows).reverse.flatten =
      sortRows (rowOrder direction.flip column) rows := by
  have hperm : (tiedGroups (rowOrder direction column) rows).reverse.flatten.Perm rows := by
    refine (List.reverse_perm _).flatten.trans ?_
    rw [flatten_tiedGroups]
    exact sortRows_perm rows
  refine eq_of_ordered_of_ties (hperm.trans (sortRows_perm rows).symm)
    (ordered_groups_reverse direction column rows) (sortRows_ordered rows) fun a => ?_
  rw [sortRows_ties, isTied_flip, filter_flatten_reverse (tiedGroups_pairwise_lt rows),
    flatten_tiedGroups, sortRows_ties]

/-- The groups come in the opposite order, each of them as it was. -/
theorem tiedGroups_flip (rows : List R) : tiedGroups (rowOrder direction.flip column) rows =
    (tiedGroups (rowOrder direction column) rows).reverse := by
  have hgroup : ∀ group ∈ (tiedGroups (rowOrder direction column) rows).reverse,
      group ∈ tiedGroups (rowOrder direction column) rows := fun _ => List.mem_reverse.mp
  show (sortRows (rowOrder direction.flip column) rows).splitBy _ = _
  rw [← flatten_reverse_tiedGroups, isTied_flip]
  refine List.splitBy_flatten ?_ ?_ (List.Pairwise.isChain ?_)
  · exact fun hnil => List.nil_notMem_splitBy _ _ (hgroup _ hnil)
  · exact fun group hmem => List.isChain_of_mem_splitBy (hgroup group hmem)
  · refine List.Pairwise.imp_of_mem (fun {g h} hg hh hgt => ?_)
      (List.pairwise_reverse.mpr (tiedGroups_pairwise_lt rows))
    have hg0 : g ≠ [] := List.ne_nil_of_mem_splitBy (hgroup g hg)
    have hh0 : h ≠ [] := List.ne_nil_of_mem_splitBy (hgroup h hh)
    exact ⟨hg0, hh0, not_tied_of_gt (hgt _ (List.head_mem hh0) _ (List.getLast_mem hg0))⟩

end Flip

/-! ## The four lists -/

/-- Sorting a list in the other direction comes to what it is meant to come to. -/
structure TurnsRound (R : Type) [Record R] : Prop where
  /-- in both directions, all of the rows are in the groups, as often as in the list -/
  whole : ∀ (direction : Direction) (column : Record.Column R) (rows : List R),
    (tiedGroups (rowOrder direction column) rows).flatten =
        sortRows (rowOrder direction column) rows ∧
      (tiedGroups (rowOrder direction column) rows).flatten.Perm rows
  /-- the rows of a group come before those of all later groups, and are not tied with them -/
  ordered : ∀ (direction : Direction) (column : Record.Column R) (rows : List R),
    (tiedGroups (rowOrder direction column) rows).Pairwise fun earlier later =>
      ∀ a ∈ earlier, ∀ b ∈ later, rowOrder direction column a b = .lt
  /-- the rows from the back, and what comes out turned round -/
  mirrored : ∀ (direction : Direction) (column : Record.Column R) (rows : List R),
    sortRows (rowOrder direction.flip column) rows =
      (sortRows (rowOrder direction column) rows.reverse).reverse
  /-- the groups of tied rows in the opposite order -/
  groups : ∀ (direction : Direction) (column : Record.Column R) (rows : List R),
    tiedGroups (rowOrder direction.flip column) rows =
      (tiedGroups (rowOrder direction column) rows).reverse
  /-- in both directions, a group is what is tied with one of its rows, in its old places -/
  places : ∀ (direction : Direction) (column : Record.Column R) (rows : List R),
    ∀ group ∈ tiedGroups (rowOrder direction column) rows, ∀ row ∈ group,
      group = rows.filter (isTied (rowOrder direction column) row)

theorem OrderedRecord.turnsRound (R : Type) [Record R] [OrderedRecord R] : TurnsRound R where
  whole _ _ rows := ⟨flatten_tiedGroups rows, (flatten_tiedGroups rows).symm ▸ sortRows_perm rows⟩
  ordered _ _ rows := tiedGroups_pairwise_lt rows
  mirrored := sortRows_flip
  groups := tiedGroups_flip
  places _ _ _ _ hgroup _ hrow := eq_filter_of_mem_tiedGroups hgroup hrow

/--
**Downwards, each of the four lists is what it is upwards with its groups of tied rows in the
opposite order, and every group as it was.** That is sorting the rows from the back, and turning
round what comes out. In both directions the groups hold all of the rows and are in order.
-/
theorem lists_turn_round : TurnsRound ApiKey ∧ TurnsRound LnAddress ∧ TurnsRound Invoice ∧
    TurnsRound Payment :=
  ⟨OrderedRecord.turnsRound ApiKey, OrderedRecord.turnsRound LnAddress,
    OrderedRecord.turnsRound Invoice, OrderedRecord.turnsRound Payment⟩

end WalletConsole
