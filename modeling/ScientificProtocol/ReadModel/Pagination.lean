import ScientificProtocol.Concurrency.Paging
import ScientificProtocol.Js.Number

/-!
# Reading all pages of a table

`readAllPages` and `normalizePagination` of `src/shared/pagination.ts`. A table is read page by
page, each time from the offset that has been come to, until a page is empty or the offset is at the
total that the page says. Between two pages rows may be inserted, anywhere in the listing.

A row that is inserted pushes others back, but never before the offset. So no row of the listing
that the first page is from is left out, although some may be read twice; and if nothing is inserted
what is read is the listing (`readAllPages_complete`).
-/

namespace ScientificProtocol.ReadModel

open Js Concurrency.Paging

/-! ### The source -/

structure PaginationInput where
  limit : Option Double
  offset : Option Double

structure NormalizedPagination where
  limit : Double
  offset : Double
  deriving DecidableEq

structure PageItems (α : Type) where
  items : List α
  total : ℕ

/-- `Number.isFinite(value) ? Number(value) : otherwise` -/
def finiteOr (otherwise : Double) : Option Double → Double
  | some value => if value.isFinite then value else otherwise
  | none => otherwise

def normalizePagination (options : PaginationInput) (defaultLimit : Option Double) :
    NormalizedPagination :=
  let limit := finiteOr (defaultLimit.getD (.finite 20)) options.limit
  let offset := finiteOr (.finite 0) options.offset
  { limit := .max (.finite 1) (.min (.finite 100) limit.floor)
    offset := .max (.finite 0) offset.floor }

section

variable {α : Type}

/-- The loop of `readAllPages`, where the pages that have been asked for are counted. A loop that
has not ended yet has no result. -/
def readPages (readPage : ℕ → NormalizedPagination → PageItems α) (pageSize : Double) :
    ℕ → ℕ → ℕ → List α → Option (List α)
  | 0, _, _, _ => none
  | fuel + 1, call, offset, items =>
    let page := readPage call ⟨pageSize, .finite offset⟩
    if page.items.length = 0 ∨ page.total ≤ offset + page.items.length then
      some (items ++ page.items)
    else readPages readPage pageSize fuel (call + 1) (offset + page.items.length)
      (items ++ page.items)

/-- What has been read after so many pages, if it ends by then. -/
def readAllPages (readPage : ℕ → NormalizedPagination → PageItems α) (pageSize : Option Double)
    (fuel : ℕ) : Option (List α) :=
  readPages readPage (.max (.finite 1) (.min (.finite 100) (pageSize.getD (.finite 100)).floor))
    fuel 0 0 []

/-- What a query takes for `LIMIT` or `OFFSET`: a number from 0 on. Nothing else comes out of
`normalizePagination`. -/
def rowCount : Double → ℕ
  | .finite q => ⌊q⌋₊
  | .nan | .infinite _ => 0

/-- The page of a store, and the number of the rows, as they are in one state of the table. -/
def readRowsPage (rows : List α) (options : PaginationInput) : PageItems α :=
  let pagination := normalizePagination options none
  { items := (rows.drop (rowCount pagination.offset)).take (rowCount pagination.limit)
    total := rows.length }

/-- The pages of a table that is in another state each time. -/
def readTable (rows : ℕ → List α) (call : ℕ) (pagination : NormalizedPagination) : PageItems α :=
  readRowsPage (rows call) ⟨some pagination.limit, some pagination.offset⟩

end

/-! ### What is normalized -/

/-- A number that is cut off at 1 and at 100. -/
theorem exists_limit (q : ℚ) : ∃ limit : ℕ, (1 ≤ limit ∧ limit ≤ 100) ∧
    Double.max (.finite 1) (.min (.finite 100) (Double.floor (.finite q))) = .finite limit := by
  have hcast : ((max 1 (min 100 ⌊q⌋)).toNat : ℤ) = max 1 (min 100 ⌊q⌋) :=
    Int.toNat_of_nonneg (le_max_of_le_left (by decide))
  refine ⟨(max 1 (min 100 ⌊q⌋)).toNat, by omega, ?_⟩
  rw [Double.floor, Double.min, Double.max, ← Int.cast_natCast, hcast]
  push_cast
  rfl

/-- A number that is cut off at 0. -/
theorem exists_offset (q : ℚ) : ∃ offset : ℕ,
    Double.max (.finite 0) (Double.floor (.finite q)) = .finite offset := by
  have hcast : ((max 0 ⌊q⌋).toNat : ℤ) = max 0 ⌊q⌋ := Int.toNat_of_nonneg (le_max_left _ _)
  refine ⟨(max 0 ⌊q⌋).toNat, ?_⟩
  rw [Double.floor, Double.max, ← Int.cast_natCast, hcast]
  push_cast
  rfl

theorem exists_finiteOr {otherwise : Double} (h : otherwise.isFinite = true)
    (value : Option Double) : ∃ q, finiteOr otherwise value = .finite q := by
  have hfinite : ∀ {x : Double}, x.isFinite = true → ∃ q, x = .finite q := by
    intro x hx
    cases x with
    | finite q => exact ⟨q, rfl⟩
    | nan | infinite => cases hx
  cases value with
  | none => exact hfinite h
  | some x =>
    rw [finiteOr]
    split
    next hx => exact hfinite hx
    next => exact hfinite h

/-- **What is normalized** are whole numbers, from 1 to 100 and from 0 on. -/
theorem normalizePagination_eq (options : PaginationInput) {defaultLimit : Option Double}
    (hdefault : ∀ value ∈ defaultLimit, value.isFinite = true) :
    ∃ limit offset : ℕ, (1 ≤ limit ∧ limit ≤ 100) ∧
      normalizePagination options defaultLimit = ⟨.finite limit, .finite offset⟩ := by
  have hgetD : (defaultLimit.getD (.finite 20)).isFinite = true := by
    cases defaultLimit with
    | none => rfl
    | some value => exact hdefault value rfl
  obtain ⟨q, hq⟩ := exists_finiteOr hgetD options.limit
  have hzero : (Double.finite 0).isFinite = true := rfl
  obtain ⟨q', hq'⟩ := exists_finiteOr hzero options.offset
  obtain ⟨limit, hlimit, hmax⟩ := exists_limit q
  obtain ⟨offset, hmax'⟩ := exists_offset q'
  refine ⟨limit, offset, hlimit, ?_⟩
  rw [normalizePagination, hq, hq', hmax, hmax']

example : normalizePagination ⟨some (.finite 500), some (.finite (-5))⟩ none =
    ⟨.finite 100, .finite 0⟩ := by decide

/-- An offset that has been come to is normalized to itself. -/
theorem normalizePagination_offset (limit defaultLimit : Option Double) (offset : ℕ) :
    (normalizePagination ⟨limit, some (.finite offset)⟩ defaultLimit).offset = .finite offset := by
  change Double.max (.finite 0) (.finite (⌊(offset : ℚ)⌋ : ℤ)) = .finite offset
  rw [Double.max, Int.floor_natCast, Int.cast_natCast, max_eq_right (Nat.cast_nonneg offset)]

/-- **A table is read in pages of one length**, whatever the size is that is asked for: if that is
not a number, the store has its own. -/
theorem exists_pageLength (pageSize : Double) : ∃ n, 0 < n ∧
    ∀ {α : Type} (rows : ℕ → List α) (call offset : ℕ),
      readTable rows call ⟨pageSize, .finite offset⟩ =
        ⟨((rows call).drop offset).take n, (rows call).length⟩ := by
  have hlimit : ∀ offset offset', (normalizePagination ⟨some pageSize, offset⟩ none).limit =
      (normalizePagination ⟨some pageSize, offset'⟩ none).limit := fun _ _ => rfl
  have hdefault : ∀ value ∈ (none : Option Double), value.isFinite = true := fun _ h => nomatch h
  obtain ⟨n, _, hn, hnormalized⟩ := normalizePagination_eq ⟨some pageSize, none⟩ hdefault
  refine ⟨n, hn.1, fun rows call offset => ?_⟩
  have hrowCount : ∀ m : ℕ, rowCount (.finite m) = m := fun m => Nat.floor_natCast m
  rw [readTable, readRowsPage]
  simp only [normalizePagination_offset, hlimit _ none, hnormalized, hrowCount]

/-! ### What is read -/

section

variable {α : Type} {rows : ℕ → List α} {pageSize : Double} {n fuel call offset : ℕ}
  {first items result : List α}

/-- A loop ends with a page that reaches the end of the table. -/
theorem readPages_eq_some
    (hpage : ∀ call offset : ℕ, readTable rows call ⟨pageSize, .finite offset⟩ =
      ⟨((rows call).drop offset).take n, (rows call).length⟩)
    (h : readPages (readTable rows) pageSize (fuel + 1) call offset items = some result) :
    let page := ((rows call).drop offset).take n
    (result = items ++ page ∧ (page = [] ∨ (rows call).length ≤ offset + page.length)) ∨
      readPages (readTable rows) pageSize fuel (call + 1) (offset + page.length) (items ++ page) =
        some result := by
  rw [readPages] at h
  simp only [hpage] at h
  split at h
  next hend => exact .inl ⟨(Option.some.inj h).symm, hend.imp_left List.length_eq_zero_iff.mp⟩
  next => exact .inr h

/-- **No row is left out**, if rows are only inserted: by induction on the pages, what the first of
them was from has been read, or comes at the offset or behind it. -/
theorem readPages_covers (hn : 0 < n)
    (hpage : ∀ call offset : ℕ, readTable rows call ⟨pageSize, .finite offset⟩ =
      ⟨((rows call).drop offset).take n, (rows call).length⟩)
    (hinsert : ∀ i, (rows i).Sublist (rows (i + 1)))
    (hcovers : Covers first items offset (rows call))
    (h : readPages (readTable rows) pageSize fuel call offset items = some result) :
    first.Sublist result := by
  induction fuel generalizing call offset items with
  | zero => cases h
  | succ fuel ih =>
    have hread := hcovers.page (List.take_prefix n ((rows call).drop offset))
    rcases readPages_eq_some hpage h with ⟨rfl, hend⟩ | hrest
    · refine hread.read ?_
      rcases hend with hnil | hend
      · have hlength := congrArg List.length hnil
        rw [List.length_take, List.length_drop, List.length_nil] at hlength
        omega
      · exact hend
    · exact ih (hread.insert (hinsert call)) hrest

/-- **A table that stays** is read to its end: by induction on the rows that are left. -/
theorem readPages_of_const (hn : 0 < n) {l : List α} (hrows : ∀ i, rows i = l)
    (hpage : ∀ call offset : ℕ, readTable rows call ⟨pageSize, .finite offset⟩ =
      ⟨((rows call).drop offset).take n, (rows call).length⟩)
    (hleft : l.length - offset < fuel) :
    readPages (readTable rows) pageSize fuel call offset (l.take offset) = some l := by
  induction fuel generalizing call offset with
  | zero => exact absurd hleft (Nat.not_lt_zero _)
  | succ fuel ih =>
    have hitems : l.take offset ++ (l.drop offset).take n =
        l.take (offset + ((l.drop offset).take n).length) := by
      rw [List.take_add, ← List.prefix_iff_eq_take.mp (List.take_prefix n (l.drop offset))]
    have hlength : ((l.drop offset).take n).length = min n (l.length - offset) := by
      rw [List.length_take, List.length_drop]
    rw [readPages]
    simp only [hpage, hrows]
    split
    next hend =>
      rw [hitems, List.take_of_length_le (by omega)]
    next hgoes =>
      rw [hitems]
      exact ih (by omega)

/-- **Nothing is lost**: for every size of the pages, if rows are only inserted between them, no row
of the first listing is left out of what is read; and if none is, the loop ends, and what is read is
the listing, each row once. -/
theorem readAllPages_complete (rows : ℕ → List α) (pageSize : Option Double) :
    ((∀ i, (rows i).Sublist (rows (i + 1))) → ∀ fuel items,
      readAllPages (readTable rows) pageSize fuel = some items → (rows 0).Sublist items) ∧
    ((∀ i, rows (i + 1) = rows i) → ∃ calls, ∀ fuel, calls ≤ fuel →
      readAllPages (readTable rows) pageSize fuel = some (rows 0)) := by
  obtain ⟨n, hn, hpage⟩ := exists_pageLength
    (.max (.finite 1) (.min (.finite 100) (pageSize.getD (.finite 100)).floor))
  constructor
  · intro hinsert fuel items h
    exact readPages_covers hn (hpage rows) hinsert (.begin (rows 0)) h
  · intro hstays
    have hrows : ∀ i, rows i = rows 0 := by
      intro i
      induction i with
      | zero => rfl
      | succ i ih => rw [hstays i, ih]
    exact ⟨(rows 0).length + 1, fun fuel hfuel =>
      readPages_of_const hn hrows (hpage rows) (by omega)⟩

/-- A row is put before the others after the first page. -/
def grownTable (call : ℕ) : List ℕ := if call = 0 then [1, 2, 3] else [0, 1, 2, 3]

/-- One row is read twice, and none is left out. -/
theorem grownTable_complete :
    readAllPages (readTable grownTable) (some (.finite 2)) 3 = some [1, 2, 2, 3] ∧
      (grownTable 0).Sublist [1, 2, 2, 3] := by
  have hread : readAllPages (readTable grownTable) (some (.finite 2)) 3 = some [1, 2, 2, 3] := by
    decide
  have hinsert : ∀ i, (grownTable i).Sublist (grownTable (i + 1)) := by
    intro i
    cases i with
    | zero => decide
    | succ i => exact List.Sublist.refl _
  exact ⟨hread, (readAllPages_complete grownTable (some (.finite 2))).1 hinsert 3 _ hread⟩

end

end ScientificProtocol.ReadModel
