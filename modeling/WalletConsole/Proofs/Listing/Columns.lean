import Mathlib
import WalletConsole.Proofs.Listing.Order

/-!
# Comparing rows by a column

What the columns of the four lists compare: some of them values that a row may lack, some of them
texts whose case does not matter. Every column, upwards and downwards, is a total preorder, and with
the positions of the rows it is a strict total order, so that there is nothing left to choose for
one who sorts.

* `Cells` — what the rows of a list have in its columns
* `compare_lt_of_missing` — a missing value comes before all others
* `compareOptionalText_eq_iff` — which texts are equal in a column
* `byPlace_strictTotal` — positions decide between tied rows
* `columns_compare` — **every column of each of the four lists puts rows in order**
-/

namespace WalletConsole

open Calendar Text

/-! ## What rows have in a column -/

/-- What the rows of a list have in its columns. -/
class Cells (R : Type) [Record R] where
  /-- does a row have a value in the column? -/
  isFilled : Record.Column R → R → Bool
  /-- the texts of a column that is ordered without regard to case -/
  text? : Record.Column R → Option (R → Option String)

instance : Cells ApiKey where
  isFilled
    | .expiresAt, k => k.expiresAt.isSome
    | .name, _ | .permissions, _ | .createdAt, _ => true
  text?
    | .name => some fun k => some k.name
    | .permissions | .createdAt | .expiresAt => none

instance : Cells LnAddress where
  isFilled
    | .updatedAt, a => a.updatedAt.isSome
    | .username, _ | .walletId, _ | .active, _ | .createdAt, _ => true
  text?
    | .username => some fun a => some a.username
    | .walletId | .active | .createdAt | .updatedAt => none

instance : Cells Invoice where
  isFilled
    | .description, i => i.description.isSome
    | .amount, i => i.amountMsat.isSome
    | .fee, i => i.feeMsat.isSome
    | .paymentTime, i => i.paymentTime.isSome
    | .ledger, _ | .status, _ | .createdAt, _ => true
  text?
    | .description => some Invoice.description
    | .amount | .fee | .ledger | .status | .createdAt | .paymentTime => none

instance : Cells Payment where
  isFilled
    | .description, p => p.description.isSome
    | .fee, p => p.feeMsat.isSome
    | .paymentTime, p => p.paymentTime.isSome
    | .amount, _ | .ledger, _ | .status, _ | .createdAt, _ => true
  text?
    | .description => some Payment.description
    | .amount | .fee | .ledger | .status | .createdAt | .paymentTime => none

/-! ## Missing values and texts -/

/-- A missing value comes before all others. -/
theorem compare_lt_of_missing {α : Type} [Ord α] {x y : Option α} (hx : x.isSome = false)
    (hy : y.isSome = true) : compare x y = .lt := by
  obtain rfl := Option.not_isSome_iff_eq_none.mp (Bool.not_eq_true _ ▸ hx)
  obtain ⟨y, rfl⟩ := Option.isSome_iff_exists.mp hy
  rfl

theorem compareOptionalText_lt_of_missing {x y : Option String} (hx : x.isSome = false)
    (hy : y.isSome = true) : compareOptionalText x y = .lt := by
  rw [compareOptionalText_eq]
  exact compare_lt_of_missing (by rwa [Option.isSome_map]) (by rwa [Option.isSome_map])

/-- Texts are equal in a column if both are missing, or if they are the same in lower case. -/
theorem compareOptionalText_eq_iff {x y : Option String} : compareOptionalText x y = .eq ↔
    (x = none ∧ y = none) ∨ ∃ s t, x = some s ∧ y = some t ∧ lowered s = lowered t := by
  rw [compareOptionalText_eq, Std.LawfulEqCmp.compare_eq_iff_eq]
  cases x <;> cases y <;> simp

/-- The ascending order of a column treats missing values and texts as it is meant to. -/
structure ComparesCells (R : Type) [Record R] [Cells R] : Prop where
  missing : ∀ (column : Record.Column R) (a b : R), Cells.isFilled column a = false →
    Cells.isFilled column b = true → Record.compareBy column a b = .lt
  text : ∀ (column : Record.Column R) (textOf : R → Option String),
    Cells.text? column = some textOf →
      ∀ a b, Record.compareBy column a b = compareOptionalText (textOf a) (textOf b)

theorem ApiKey.comparesCells : ComparesCells ApiKey where
  missing column a b ha hb := by
    cases column with
    | expiresAt => exact compare_lt_of_missing ha hb
    | name | permissions | createdAt => cases ha
  text column textOf h a b := by
    cases column with
    | name => cases h; rfl
    | permissions | createdAt | expiresAt => cases h

theorem LnAddress.comparesCells : ComparesCells LnAddress where
  missing column a b ha hb := by
    cases column with
    | updatedAt => exact compare_lt_of_missing ha hb
    | username | walletId | active | createdAt => cases ha
  text column textOf h a b := by
    cases column with
    | username => cases h; rfl
    | walletId | active | createdAt | updatedAt => cases h

theorem Invoice.comparesCells : ComparesCells Invoice where
  missing column a b ha hb := by
    cases column with
    | description => exact compareOptionalText_lt_of_missing ha hb
    | amount | fee | paymentTime => exact compare_lt_of_missing ha hb
    | ledger | status | createdAt => cases ha
  text column textOf h a b := by
    cases column with
    | description => cases h; rfl
    | amount | fee | ledger | status | createdAt | paymentTime => cases h

theorem Payment.comparesCells : ComparesCells Payment where
  missing column a b ha hb := by
    cases column with
    | description => exact compareOptionalText_lt_of_missing ha hb
    | fee | paymentTime => exact compare_lt_of_missing ha hb
    | amount | ledger | status | createdAt => cases ha
  text column textOf h a b := by
    cases column with
    | description => cases h; rfl
    | amount | fee | ledger | status | createdAt | paymentTime => cases h

/-! ## Positions -/

section Places

variable {R : Type} {cmp : R → R → Ordering} [Std.TransCmp cmp]

/-- Positions decide between tied rows: of two rows of a list, one comes first. -/
theorem byPlace_strictTotal (rows : List R) : IsStrictTotalOrder { a // a ∈ rows.zipIdx }
    fun a b => byPlace cmp a b = .lt where
  irrefl a h := by
    have hself : byPlace cmp a a = .eq := Std.ReflCmp.compare_self
    rw [hself] at h
    cases h
  trans a b c hab hbc := Std.TransCmp.lt_trans hab hbc
  trichotomous a b hab hba := by
    have hswap : byPlace cmp b a = (byPlace cmp a b).swap := Std.OrientedCmp.eq_swap
    have htied : byPlace cmp (a : R × Nat) b = .eq := by
      cases h : byPlace cmp (a : R × Nat) b with
      | lt => exact absurd h hab
      | eq => rfl
      | gt => exact absurd (by rw [hswap, h]; rfl) hba
    exact Subtype.ext (eq_of_byPlace_eq a.2 b.2 htied)

end Places

/-! ## The four lists -/

/-- Comparing the rows of a list by one of its columns puts them in order. -/
structure ColumnsCompare (R : Type) [Record R] [Cells R] : Prop where
  /-- the other way round, the answer is turned round -/
  turned : ∀ (direction : Direction) (column : Record.Column R) (a b : R),
    rowOrder direction column b a = (rowOrder direction column a b).swap
  same : ∀ (direction : Direction) (column : Record.Column R) (a : R),
    rowOrder direction column a a = .eq
  trans : ∀ (direction : Direction) (column : Record.Column R) (a b c : R),
    (rowOrder direction column a b).isLE = true → (rowOrder direction column b c).isLE = true →
      (rowOrder direction column a c).isLE = true
  /-- rows that lack a value come before those that have one -/
  missingFirst : ∀ (column : Record.Column R) (a b : R), Cells.isFilled column a = false →
    Cells.isFilled column b = true → rowOrder .asc column a b = .lt
  /-- texts are equal if both are missing, or if they are the same in lower case -/
  tiedTexts : ∀ (direction : Direction) (column : Record.Column R) (textOf : R → Option String),
    Cells.text? column = some textOf → ∀ a b, rowOrder direction column a b = .eq ↔
      (textOf a = none ∧ textOf b = none) ∨
        ∃ s t, textOf a = some s ∧ textOf b = some t ∧ lowered s = lowered t
  /-- with their positions, of two rows of a list one comes first -/
  placed : ∀ (direction : Direction) (column : Record.Column R) (rows : List R),
    IsStrictTotalOrder { a // a ∈ rows.zipIdx }
      fun a b => byPlace (rowOrder direction column) a b = .lt

/-- Rows are tied downwards if they are tied upwards. -/
theorem rowOrder_eq_eq_iff {R : Type} [Record R] {direction : Direction}
    {column : Record.Column R} {a b : R} :
    rowOrder direction column a b = .eq ↔ Record.compareBy column a b = .eq := by
  cases direction with
  | asc => exact Iff.rfl
  | desc => exact Ordering.swap_eq_eq

theorem ComparesCells.columnsCompare {R : Type} [Record R] [OrderedRecord R] [Cells R]
    (h : ComparesCells R) : ColumnsCompare R where
  turned _ _ _ _ := Std.OrientedCmp.eq_swap
  same _ _ _ := Std.ReflCmp.compare_self
  trans _ _ _ _ _ := Std.TransCmp.isLE_trans
  missingFirst := h.missing
  tiedTexts direction column textOf htext a b := by
    rw [rowOrder_eq_eq_iff, h.text column textOf htext, compareOptionalText_eq_iff]
  placed _ _ rows := byPlace_strictTotal rows

/--
**Every column of each of the four lists puts rows in order**, upwards and downwards: comparing is
a total preorder, in which rows that lack a value come first upwards and texts are equal whatever
their case. No two rows of a list are left tied when their positions decide.
-/
theorem columns_compare : ColumnsCompare ApiKey ∧ ColumnsCompare LnAddress ∧
    ColumnsCompare Invoice ∧ ColumnsCompare Payment :=
  ⟨ApiKey.comparesCells.columnsCompare, LnAddress.comparesCells.columnsCompare,
    Invoice.comparesCells.columnsCompare, Payment.comparesCells.columnsCompare⟩

end WalletConsole
