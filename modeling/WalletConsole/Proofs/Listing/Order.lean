import WalletConsole.Session.Listed

/-!
# The columns order the rows

Each column of each list is a total preorder: comparing the other way round turns the answer round,
and "not after" is transitive. Rows can be equal in a column without being the same row.

* `OrderedRecord` — records all of whose columns are total preorders, such as those of the four lists
* `rowOrder_trans` — so are the columns downwards
* `sortRows_ties` — rows that are equal in the column keep their places among each other
* `eq_of_ordered_of_ties` — order and ties leave no choice, so there is one way to sort
* `map_eq_sortRows` — sorting the rows with their positions, in whatever way, comes to the same
-/

namespace WalletConsole

open Calendar Text

/-! ## Comparing -/

/-- Comparing by what a function says of two values keeps the laws of the order. -/
theorem transCmp_comap {α β : Type} (cmp : β → β → Ordering) [Std.TransCmp cmp] (f : α → β) :
    Std.TransCmp fun a b => cmp (f a) (f b) where
  eq_swap := Std.OrientedCmp.eq_swap
  isLE_trans := Std.TransCmp.isLE_trans

instance : Std.TransOrd Date := inferInstanceAs (Std.TransCmp (compareLex _ _))

instance : Std.TransOrd Clock := inferInstanceAs (Std.TransCmp (compareLex _ _))

instance : Std.TransOrd Instant := inferInstanceAs (Std.TransCmp (compareLex _ _))

instance : Std.TransCmp compareText := transCmp_comap compare lowered

/-- A missing text is treated like any missing value: it comes first. -/
theorem compareOptionalText_eq (a b : Option String) :
    compareOptionalText a b = compare (a.map lowered) (b.map lowered) := by
  cases a <;> cases b <;> rfl

instance : Std.TransCmp compareOptionalText := by
  rw [show compareOptionalText = fun a b => compare (a.map lowered) (b.map lowered) from
    funext fun a => funext fun b => compareOptionalText_eq a b]
  exact transCmp_comap compare fun s : Option String => s.map lowered

instance {α : Type} [Named α] : Std.TransCmp (compareNames (α := α)) :=
  transCmp_comap compare Named.name

/-! ## The columns of the four lists -/

/-- A record all of whose columns are total preorders. -/
class OrderedRecord (R : Type) [Record R] : Prop where
  compareBy_trans (column : Record.Column R) : Std.TransCmp (Record.compareBy (R := R) column)

attribute [instance] OrderedRecord.compareBy_trans

theorem ApiKey.compareBy_trans : ∀ column, Std.TransCmp (ApiKey.compareBy column)
  | .name => transCmp_comap compareText ApiKey.name
  | .permissions => transCmp_comap compare fun k : ApiKey => k.permissions.length
  | .createdAt => transCmp_comap compare ApiKey.createdAt
  | .expiresAt => transCmp_comap compare ApiKey.expiresAt

instance : OrderedRecord ApiKey := ⟨ApiKey.compareBy_trans⟩

theorem LnAddress.compareBy_trans : ∀ column, Std.TransCmp (LnAddress.compareBy column)
  | .username => transCmp_comap compareText LnAddress.username
  | .walletId => transCmp_comap compare LnAddress.walletId
  | .active => transCmp_comap compare LnAddress.active
  | .createdAt => transCmp_comap compare LnAddress.createdAt
  | .updatedAt => transCmp_comap compare LnAddress.updatedAt

instance : OrderedRecord LnAddress := ⟨LnAddress.compareBy_trans⟩

theorem Invoice.compareBy_trans : ∀ column, Std.TransCmp (Invoice.compareBy column)
  | .description => transCmp_comap compareOptionalText Invoice.description
  | .amount => transCmp_comap compare Invoice.amountMsat
  | .fee => transCmp_comap compare Invoice.feeMsat
  | .ledger => transCmp_comap compareNames Invoice.ledger
  | .status => transCmp_comap compareNames Invoice.status
  | .createdAt => transCmp_comap compare Invoice.createdAt
  | .paymentTime => transCmp_comap compare Invoice.paymentTime

instance : OrderedRecord Invoice := ⟨Invoice.compareBy_trans⟩

theorem Payment.compareBy_trans : ∀ column, Std.TransCmp (Payment.compareBy column)
  | .description => transCmp_comap compareOptionalText Payment.description
  | .amount => transCmp_comap compare Payment.amountMsat
  | .fee => transCmp_comap compare Payment.feeMsat
  | .ledger => transCmp_comap compareNames Payment.ledger
  | .status => transCmp_comap compareNames Payment.status
  | .createdAt => transCmp_comap compare Payment.createdAt
  | .paymentTime => transCmp_comap compare Payment.paymentTime

instance : OrderedRecord Payment := ⟨Payment.compareBy_trans⟩

/-- Downwards, a column is the same preorder with its arguments the other way round. -/
instance rowOrder_trans {R : Type} [Record R] [OrderedRecord R] (direction : Direction)
    (column : Record.Column R) : Std.TransCmp (rowOrder (R := R) direction column) := by
  cases direction with
  | asc => exact OrderedRecord.compareBy_trans column
  | desc =>
    have hswap : rowOrder (R := R) .desc column = fun a b => Record.compareBy column b a := by
      funext a b
      exact Std.OrientedCmp.eq_swap.symm
    rw [hswap]
    exact Std.TransCmp.opposite

/-! ## Sorting -/

section Sorting

variable {R : Type} {cmp : R → R → Ordering}

/-- Are two rows equal in the column? -/
def isTied (cmp : R → R → Ordering) (a b : R) : Bool := cmp a b == .eq

theorem isTied_iff {a b : R} : isTied cmp a b = true ↔ cmp a b = .eq := by
  simp [isTied]

theorem sortRows_perm (rows : List R) : (sortRows cmp rows).Perm rows := List.mergeSort_perm _ _

variable [Std.TransCmp cmp]

theorem isTied_self (a : R) : isTied cmp a a = true := isTied_iff.mpr Std.ReflCmp.compare_self

/-- Rows that are tied with the same row are tied with each other. -/
theorem isTied_of_tied {a b c : R} (hb : isTied cmp a b = true) (hc : isTied cmp a c = true) :
    isTied cmp b c = true := by
  rw [isTied_iff] at hb hc ⊢
  rw [Std.TransCmp.congr_left (Std.OrientedCmp.eq_symm hb), hc]

/-- So they are in order, whichever way round. -/
theorem isLE_of_tied {a b c : R} (hb : isTied cmp a b = true) (hc : isTied cmp a c = true) :
    (cmp b c).isLE = true := by
  rw [isTied_iff.mp (isTied_of_tied hb hc)]
  rfl

theorem isLE_total (a b : R) : ((cmp a b).isLE || (cmp b a).isLE) = true := by
  have hswap : cmp b a = (cmp a b).swap := Std.OrientedCmp.eq_swap
  rw [hswap]
  cases cmp a b <;> rfl

theorem sortRows_ordered (rows : List R) :
    (sortRows cmp rows).Pairwise fun a b => (cmp a b).isLE = true :=
  List.pairwise_mergeSort (fun _ _ _ => Std.TransCmp.isLE_trans) isLE_total rows

/-- Rows that are tied keep their places among each other. -/
theorem sortRows_ties (rows : List R) (a : R) :
    (sortRows cmp rows).filter (isTied cmp a) = rows.filter (isTied cmp a) := by
  have htied : (rows.filter (isTied cmp a)).Pairwise fun b c => (cmp b c).isLE = true := by
    refine List.pairwise_of_forall_mem_list ?_
    intro b hb c hc
    exact isLE_of_tied (List.mem_filter.mp hb).2 (List.mem_filter.mp hc).2
  have hsub : (rows.filter (isTied cmp a)).Sublist (sortRows cmp rows) :=
    List.sublist_mergeSort (fun _ _ _ => Std.TransCmp.isLE_trans) isLE_total htied
      List.filter_sublist
  have hsub' := hsub.filter (isTied cmp a)
  rw [List.filter_filter, List.filter_congr (q := isTied cmp a) (by simp)] at hsub'
  exact (hsub'.eq_of_length ((sortRows_perm rows).filter _).length_eq.symm).symm

theorem head_isLE {x y : R} {xs : List R}
    (h : (x :: xs).Pairwise fun a b => (cmp a b).isLE = true) (hy : y ∈ x :: xs) :
    (cmp x y).isLE = true := by
  rcases List.mem_cons.mp hy with rfl | hmem
  · exact isLE_of_tied (isTied_self y) (isTied_self y)
  · exact (List.pairwise_cons.mp h).1 y hmem

/-- **Two ways to put rows in order agree if they agree on the rows that are tied.** -/
theorem eq_of_ordered_of_ties {xs ys : List R} (hp : xs.Perm ys)
    (hx : xs.Pairwise fun a b => (cmp a b).isLE = true)
    (hy : ys.Pairwise fun a b => (cmp a b).isLE = true)
    (ht : ∀ a, xs.filter (isTied cmp a) = ys.filter (isTied cmp a)) : xs = ys := by
  induction xs generalizing ys with
  | nil => exact hp.nil_eq
  | cons x xs ih =>
    cases ys with
    | nil => exact absurd hp.symm.nil_eq (by simp)
    | cons y ys =>
      -- each of the two first rows is not after the other
      have hle : (cmp x y).isLE = true := head_isLE hx (hp.mem_iff.mpr List.mem_cons_self)
      have hge : (cmp y x).isLE = true := head_isLE hy (hp.mem_iff.mp List.mem_cons_self)
      have hxy : isTied cmp x y = true := isTied_iff.mpr (Std.OrientedCmp.isLE_antisymm hle hge)
      -- so they are tied, and both come first among the rows tied with them
      have hfirst := ht x
      rw [List.filter_cons_of_pos (isTied_self x), List.filter_cons_of_pos hxy] at hfirst
      obtain rfl : x = y := (List.cons.inj hfirst).1
      congr 1
      refine ih hp.cons_inv hx.of_cons hy.of_cons fun a => ?_
      have hrest := ht a
      by_cases ha : isTied cmp a x = true
      · rw [List.filter_cons_of_pos ha, List.filter_cons_of_pos ha] at hrest
        exact (List.cons.inj hrest).2
      · rwa [List.filter_cons_of_neg ha, List.filter_cons_of_neg ha] at hrest

/-- Rows may be left out before or after sorting. -/
theorem sortRows_filter (p : R → Bool) (rows : List R) :
    (sortRows cmp rows).filter p = sortRows cmp (rows.filter p) := by
  have hp : ((sortRows cmp rows).filter p).Perm (sortRows cmp (rows.filter p)) :=
    ((sortRows_perm rows).filter p).trans (sortRows_perm _).symm
  refine eq_of_ordered_of_ties hp ((sortRows_ordered rows).filter p) (sortRows_ordered _) ?_
  intro a
  calc ((sortRows cmp rows).filter p).filter (isTied cmp a)
      = ((sortRows cmp rows).filter (isTied cmp a)).filter p := by
        simp only [List.filter_filter, Bool.and_comm]
    _ = (rows.filter (isTied cmp a)).filter p := by rw [sortRows_ties]
    _ = (rows.filter p).filter (isTied cmp a) := by
        simp only [List.filter_filter, Bool.and_comm]
    _ = (sortRows cmp (rows.filter p)).filter (isTied cmp a) := (sortRows_ties _ a).symm

/-! ## Sorting with positions -/

/-- The order of rows that have a position: by the rows, and between tied rows by position. -/
def byPlace (cmp : R → R → Ordering) (a b : R × Nat) : Ordering :=
  (cmp a.1 b.1).then (compare a.2 b.2)

instance : Std.TransCmp (byPlace cmp) :=
  have : Std.TransCmp fun a b : R × Nat => cmp a.1 b.1 := transCmp_comap cmp Prod.fst
  inferInstanceAs (Std.TransCmp
    (compareLex (fun a b : R × Nat => cmp a.1 b.1) (compareOn fun a : R × Nat => a.2)))

theorem zipIdxLE_eq (a b : R × Nat) :
    List.zipIdxLE (fun a b => (cmp a b).isLE) a b = (byPlace cmp a b).isLE := by
  have hswap : cmp b.1 a.1 = (cmp a.1 b.1).swap := Std.OrientedCmp.eq_swap
  simp only [List.zipIdxLE, byPlace, hswap]
  cases cmp a.1 b.1 with
  | lt => rfl
  | gt => rfl
  | eq =>
    rw [Bool.eq_iff_iff]
    simp [Nat.isLE_compare]

omit [Std.TransCmp cmp] in
/-- Rows of a list that are tied and have the same position are one row. -/
theorem eq_of_byPlace_eq {rows : List R} {a b : R × Nat} (ha : a ∈ rows.zipIdx)
    (hb : b ∈ rows.zipIdx) (h : byPlace cmp a b = .eq) : a = b := by
  have hat : rows[a.2]? = some a.1 := List.mem_zipIdx_iff_getElem?.mp ha
  have hbt : rows[b.2]? = some b.1 := List.mem_zipIdx_iff_getElem?.mp hb
  have hplace : a.2 = b.2 := Nat.compare_eq_eq.mp (Ordering.then_eq_eq.mp h).2
  rw [hplace, hbt] at hat
  exact Prod.ext (Option.some.inj hat).symm hplace

/--
**However rows are sorted, as long as their positions decide between tied rows, they come out the
same.**
-/
theorem map_eq_sortRows {rows : List R} {placed : List (R × Nat)} (hp : placed.Perm rows.zipIdx)
    (hs : placed.Pairwise fun a b => (byPlace cmp a b).isLE = true) :
    placed.map (·.1) = sortRows cmp rows := by
  have hsame : placed = sortRows (byPlace cmp) rows.zipIdx := by
    refine List.Perm.eq_of_pairwise ?_ hs (sortRows_ordered _) (hp.trans (sortRows_perm _).symm)
    intro a b ha hb hab hba
    -- neither is after the other, so they have the same position
    have heq : byPlace cmp a b = .eq := Std.OrientedCmp.isLE_antisymm hab hba
    exact eq_of_byPlace_eq (hp.mem_iff.mp ha) ((sortRows_perm _).mem_iff.mp hb) heq
  have hsort : sortRows cmp rows = (sortRows (byPlace cmp) rows.zipIdx).map (·.1) := by
    simp only [sortRows, ← zipIdxLE_eq]
    exact List.mergeSort_zipIdx.symm
  rw [hsame, hsort]

end Sorting

end WalletConsole
