import PixelScript.Proofs.Canvas.Points

/-!
# What the printed form tells

The entries of the rows are what the canvas shows (`Canvas.getElem?_row`). As long as the canvas shows
no line feed, its printed form can be cut into its rows again (`Canvas.splitOn_text`), so that no two
such canvases are printed alike (`Canvas.eq_of_text_eq`).
-/

namespace PixelScript.Canvas

/-! ## Reading the rows

Each entry of a row belongs to one point, and each point to one entry. -/

/-- What stands in a printed row is what the canvas shows in that row. Entries count from zero,
columns and rows from one. -/
theorem getElem?_row {c : Canvas} {above before : Nat} (habove : above < c.dimensions.height)
    (hbefore : before < c.dimensions.width) :
    (c.row above)[before]? = c.get? ⟨before + 1, above + 1⟩ := by
  have hmem : (⟨before + 1, above + 1⟩ : Point) ∈ c.dimensions :=
    ⟨⟨Nat.le_add_left 1 before, hbefore⟩, Nat.le_add_left 1 above, habove⟩
  -- the place of the point, which is by definition where its row begins and the columns before it
  have hindex : c.dimensions.index ⟨before + 1, above + 1⟩ = above * c.dimensions.width + before := rfl
  have hlen : before < (c.row above).length := by rwa [length_row habove]
  have hlt : above * c.dimensions.width + before < c.pixels.size := hindex ▸ index_lt_size hmem
  rw [get?_eq_getElem? hmem, hindex, List.getElem?_eq_getElem hlen, Array.getElem?_eq_getElem hlt]
  simp [row]

/-- A row is a part of the stored pixels, so it holds no others. -/
theorem mem_pixels_of_mem_row {c : Canvas} {above : Nat} {k : Char} (h : k ∈ c.row above) :
    k ∈ c.pixels := by
  rw [row, Array.mem_toList_iff, Array.mem_extract_iff_getElem] at h
  obtain ⟨i, hi, rfl⟩ := h
  exact Array.getElem_mem _

theorem getElem?_rows {c : Canvas} {above : Nat} (h : above < c.dimensions.height) :
    c.rows[above]? = some (c.row above) := by
  simp [rows, h]

/-- What the canvas shows at a point stands in the row of the point, in the place of its column.
This is how a canvas is read off its printed form. -/
theorem getElem?_rows_bind {c : Canvas} {p : Point} (hp : p ∈ c.dimensions) :
    (c.rows[p.row - 1]?.bind fun row => row[p.col - 1]?) = c.get? p := by
  obtain ⟨⟨hcol, hwidth⟩, hrow, hheight⟩ := id hp
  have hpoint : (⟨p.col - 1 + 1, p.row - 1 + 1⟩ : Point) = p := by
    rw [Nat.sub_add_cancel hcol, Nat.sub_add_cancel hrow]
  rw [getElem?_rows (by omega), Option.bind_some, getElem?_row (by omega) (by omega), hpoint]

/-- Every canvas has a row, as no side is shorter than one. -/
theorem rows_ne_nil (c : Canvas) : c.rows ≠ [] := by
  apply List.ne_nil_of_length_pos
  rw [length_rows]
  exact c.dimensions.height_pos

/-! ## Reading the printed form

The rows are found again by the line feeds between them, as long as no pixel is one. -/

/-- Cutting the printed form at its line feeds gives the rows. A line feed among the pixels would be
taken for the end of a row, so there must be none. -/
theorem splitOn_text {c : Canvas} (h : '\n' ∉ c.pixels) : c.text.toList.splitOn '\n' = c.rows := by
  have hrows : ∀ row ∈ c.rows, '\n' ∉ row := by
    intro row hrow hmem
    obtain ⟨above, -, rfl⟩ := List.mem_map.1 hrow
    exact h (mem_pixels_of_mem_row hmem)
  rw [text, String.toList_ofList, List.splitOn_intercalate _ hrows c.rows_ne_nil]

/-- Something is printed for every canvas: there is a first row, and it has a first pixel. -/
theorem text_ne_empty (c : Canvas) : c.text ≠ "" := by
  have hrow : c.row 0 ≠ [] := by
    apply List.ne_nil_of_length_pos
    rw [length_row c.dimensions.height_pos]
    exact c.dimensions.width_pos
  obtain ⟨first, others, hrows⟩ := List.exists_cons_of_ne_nil c.rows_ne_nil
  have hfirst : first = c.row 0 := by
    have h := getElem?_rows (c := c) c.dimensions.height_pos
    rw [hrows, List.getElem?_cons_zero, Option.some.injEq] at h
    exact h
  intro hempty
  rw [text, hrows, ← String.toList_inj, String.toList_ofList, hfirst] at hempty
  -- with one row the text is that row, and with more it has a line feed in it
  cases others with
  | nil => exact hrow (by simpa using hempty)
  | cons second others => simp [List.intercalate_cons_cons] at hempty

theorem length_of_mem_rows {c : Canvas} {row : List Char} (h : row ∈ c.rows) :
    row.length = c.dimensions.width := by
  obtain ⟨above, habove, rfl⟩ := List.mem_map.1 h
  exact length_row (List.mem_range.1 habove)

/-- The rows tell the size and the pixels: their number is the height, the length of the first one
is the width, and each of their entries is what one point shows. -/
theorem eq_of_rows_eq {c c' : Canvas} (h : c.rows = c'.rows) : c = c' := by
  have hheight : c.dimensions.height = c'.dimensions.height := by
    rw [← length_rows, h, length_rows]
  -- the first rows are equal, and so are their lengths
  have hwidth : c.dimensions.width = c'.dimensions.width := by
    have hfirst : c.rows[0]? = some (c.row 0) := getElem?_rows c.dimensions.height_pos
    have hfirst' : c'.rows[0]? = some (c'.row 0) := getElem?_rows c'.dimensions.height_pos
    rw [h, hfirst', Option.some.injEq] at hfirst
    rw [← length_row (c := c) c.dimensions.height_pos, ← hfirst, length_row c'.dimensions.height_pos]
  have hdims : c.dimensions = c'.dimensions := Dimensions.ext hwidth hheight
  apply ext_get? hdims
  intro p hp
  rw [← getElem?_rows_bind hp, h, getElem?_rows_bind (hdims ▸ hp)]

/-- Canvases without a line feed are known by their printed form, as it can be cut into the rows
again. -/
theorem eq_of_text_eq {c c' : Canvas} (h : '\n' ∉ c.pixels) (h' : '\n' ∉ c'.pixels)
    (htext : c.text = c'.text) : c = c' := by
  apply eq_of_rows_eq
  rw [← splitOn_text h, htext, splitOn_text h']

end PixelScript.Canvas
