import DomainScout.Proofs.Number.Ceiling
import DomainScout.Proofs.Store.Paging

/-!
# Pages and the rows on them

A search tells how many pages its rows make by rounding a quotient to binary64 and then up. As long as
the rows can be counted in binary64 at all, that is the number of pages that the rows need: every row
lies on exactly one of them, and none of them is empty if there are rows.

Main statement: `Explorer.exists_paginated`.
-/
namespace DomainScout

namespace Query

namespace Page

/-- The rows of a page lie between its offset and that of the next page. -/
def Holds (page : Page) (row : Int) : Prop := page.offset ≤ row ∧ row < page.number * page.size

instance (page : Page) (row : Int) : Decidable (page.Holds row) := inferInstanceAs (Decidable (_ ∧ _))

theorem holds_iff {number size row : Int} (positive : 0 < size) :
    Holds ⟨number, size⟩ row ↔ number = row / size + 1 := by
  have lower : (number - 1) * size ≤ row ↔ number - 1 ≤ row / size :=
    (Int.le_ediv_iff_mul_le positive).symm
  have upper : row < number * size ↔ row / size < number := (Int.ediv_lt_iff_lt_mul positive).symm
  unfold Holds offset
  simp only [lower, upper]
  omega

end Page

/-- The pages that some rows make. -/
structure Tiled (size rows pages : Int) : Prop where
  /-- The quotient is rounded up; at least one page there is. -/
  exact : pages = max 1 ⌈(rows : ℚ) / size⌉
  /-- Every row lies on one page. -/
  once : ∀ row, 0 ≤ row → row < rows →
    ∃! number, 1 ≤ number ∧ number ≤ pages ∧ Page.Holds ⟨number, size⟩ row
  /-- No page is empty, unless there are no rows. -/
  filled : 0 < rows → ∀ number, 1 ≤ number → number ≤ pages →
    ∃ row, 0 ≤ row ∧ row < rows ∧ Page.Holds ⟨number, size⟩ row

section Ceiling

variable {size : Int}

/-- The pages of a rounded quotient reach as far as the rows. -/
theorem le_ceil_mul (positive : 0 < size) (rows : Int) : rows ≤ ⌈(rows : ℚ) / size⌉ * size := by
  have above := Int.le_ceil ((rows : ℚ) / size)
  rw [div_le_iff₀ (Int.cast_pos.mpr positive)] at above
  exact_mod_cast above

/-- With one page less they would not. -/
theorem ceil_sub_one_mul_lt (positive : 0 < size) (rows : Int) :
    (⌈(rows : ℚ) / size⌉ - 1) * size < rows := by
  have below := Int.ceil_lt_add_one ((rows : ℚ) / size)
  rw [← sub_lt_iff_lt_add, lt_div_iff₀ (Int.cast_pos.mpr positive)] at below
  exact_mod_cast below

/-- Rounding up gives the pages that the rows need. -/
theorem tiled_ceil (positive : 0 < size) (rows : Int) :
    Tiled size rows (max 1 ⌈(rows : ℚ) / size⌉) := by
  have reach := le_ceil_mul positive rows
  have least := ceil_sub_one_mul_lt positive rows
  generalize quotient : ⌈(rows : ℚ) / size⌉ = pages at reach least
  constructor
  case exact => rw [quotient]
  case once =>
    intro row first last
    have inside : row / size < pages := (Int.ediv_lt_iff_lt_mul positive).mpr (by omega)
    have start : 0 ≤ row / size := Int.ediv_nonneg first (Int.le_of_lt positive)
    refine ⟨row / size + 1, ⟨by omega, by omega, (Page.holds_iff positive).mpr rfl⟩, ?_⟩
    rintro number ⟨-, -, holds⟩
    exact (Page.holds_iff positive).mp holds
  case filled =>
    intro some number first last
    -- The page starts with a row, since all pages before the last one are needed.
    have within : number ≤ pages := by
      by_contra beyond
      have none : pages * size ≤ 0 := Int.mul_nonpos_of_nonpos_of_nonneg (by omega) (by omega)
      omega
    have before : (number - 1) * size ≤ (pages - 1) * size :=
      Int.mul_le_mul_of_nonneg_right (by omega) (Int.le_of_lt positive)
    have start : 0 ≤ (number - 1) * size := Int.mul_nonneg (by omega) (Int.le_of_lt positive)
    have next : number * size = (number - 1) * size + size := by ring
    refine ⟨(number - 1) * size, start, by omega, Int.le_refl _, ?_⟩
    simp only
    omega

end Ceiling

theorem Page.roundUp_of_ceiling {quotient : Binary64} {n : Int} (ceiling : quotient.ceiling? = some n) :
    Page.roundUp quotient = .ok (max 1 n) := by
  unfold Page.roundUp
  rw [ceiling]

/-- The number of pages is exact for all rows that can be counted in binary64. -/
theorem Page.total_eq_ceil {size rows : Int} (least : 1 ≤ size) (most : size ≤ maxSize)
    (some : 0 ≤ rows) (few : rows ≤ 2 ^ 53) (number : Int) :
    Page.total ⟨number, size⟩ rows = .ok (max 1 ⌈(rows : ℚ) / size⌉) := by
  have bound : size ≤ 500 := most
  obtain ⟨n, rfl⟩ := Int.eq_ofNat_of_zero_le some
  obtain ⟨d, rfl⟩ := Int.eq_ofNat_of_zero_le (Int.le_trans Int.one_nonneg least)
  have ceiling : (Binary64.ofRatio false n d).ceiling? = Option.some ⌈(n : ℚ) / d⌉ :=
    Binary64.ceiling?_ofRatio (by omega) (by omega) (by omega)
  have positive : decide ((n : Int) < 0) = false := decide_eq_false (by omega)
  unfold Page.total
  rw [positive]
  exact Page.roundUp_of_ceiling ceiling

end Query

namespace Explorer

open Query

/-- The pages that a search tells of some rows. -/
structure Paginated (size rows pages : Int) : Prop where
  tiled : Tiled size rows pages
  /-- It does not matter which of the pages is asked for. -/
  total : ∀ number, Page.total ⟨number, size⟩ rows = .ok pages
  /-- Whoever asks a database that counts the rows, and gets the page of that size, is told them. -/
  fetched : ∀ (database : Database) (plan : SearchPlan) (number asked : Value) (page : Page)
    (counted found : List Row) (explorer : Explorer),
    Page.clamp number asked = .ok page → page.size = size →
    database plan.count = .ok counted → readCount counted = .ok rows →
    database (plan.page page) = .ok found →
    ((fetch database plan.table plan.compiled plan.domain number asked).run explorer).1 =
      .ok ⟨page, rows, pages, found⟩

/-- Searches tell the pages that the rows need. -/
theorem exists_paginated {size rows : Int} (sized : 1 ≤ size ∧ size ≤ 500)
    (few : 0 ≤ rows ∧ rows ≤ 2 ^ 53) : ∃ pages, Paginated size rows pages := by
  have total := Page.total_eq_ceil sized.1 sized.2 few.1 few.2
  refine ⟨_, tiled_ceil (by omega) rows, total, ?_⟩
  rintro database plan number asked ⟨place, _⟩ counted found explorer bounds rfl count told fetch
  rw [run_fetch bounds count told fetch, total place]
  rfl

/-- The greatest number of rows, in pages of seven: the quotient is no number of the format. -/
theorem exists_paginated_greatest :
    (1 ≤ (7 : Int) ∧ (7 : Int) ≤ 500) ∧ (0 ≤ (2 ^ 53 : Int) ∧ (2 ^ 53 : Int) ≤ 2 ^ 53) ∧
      ∃ pages, Paginated 7 (2 ^ 53) pages :=
  ⟨by decide, by decide, exists_paginated (by decide) (by decide)⟩

end Explorer

end DomainScout
