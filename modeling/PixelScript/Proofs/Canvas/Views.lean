import Mathlib.Data.Set.Function
import PixelScript.Proofs.Canvas.Rows
import PixelScript.Proofs.Interpreter.Dispatch

/-!
# The views of a canvas

A canvas can be looked at by its points, by its storage, by its rows and by its printed form. The storage
lists the points row by row (`Dimensions.index_bijOn`, `Dimensions.index_lt_iff`), the rows are its pieces
(`Canvas.flatten_rows`), and the printed form is the rows with a line feed between each two
(`Canvas.toList_text_append`). `Canvas.ViewsAgree` says all of it of a canvas, whatever was drawn on it
(`Canvas.views_of_drawn`).
-/

namespace PixelScript

open Script

/-! ## Points and storage

The order of storage is the order of reading: row by row from the top, and each row from the left.
-/

namespace Dimensions

variable {d : Dimensions} {p q : Point}

/-- The storage of one row lies before that of the rows below, as a row takes as many places as the
canvas is wide. -/
theorem index_lt_of_row_lt (hp : p ∈ d) (h : p.row < q.row) : d.index p < d.index q := by
  obtain ⟨⟨hcol, hwidth⟩, hrow, -⟩ := hp
  have hrows : (p.row - 1) + 1 ≤ q.row - 1 := by omega
  calc (p.row - 1) * d.width + (p.col - 1)
      < (p.row - 1) * d.width + d.width := by omega
    _ = (p.row - 1 + 1) * d.width := by rw [Nat.succ_mul]
    _ ≤ (q.row - 1) * d.width := Nat.mul_le_mul_right _ hrows
    _ ≤ d.index q := Nat.le_add_right _ _

/-- Points are stored in the order of their rows, and those of one row in the order of their
columns. -/
theorem index_lt_iff (hp : p ∈ d) (hq : q ∈ d) :
    d.index p < d.index q ↔ p.row < q.row ∨ p.row = q.row ∧ p.col < q.col := by
  rcases Nat.lt_trichotomy p.row q.row with hlt | heq | hgt
  · exact iff_of_true (index_lt_of_row_lt hp hlt) (.inl hlt)
  · -- in one row the places differ by the columns, which count from one
    have hpcol : 1 ≤ p.col := hp.1.1
    have hqcol : 1 ≤ q.col := hq.1.1
    rw [index, index, heq]
    omega
  · have hindex := index_lt_of_row_lt hq hgt
    exact iff_of_false (by omega) (by omega)

/-- Every place of the storage belongs to exactly one point of the canvas. One direction is the
bound and the injectivity of `index`, the other one `pointAt`. -/
theorem index_bijOn (d : Dimensions) : Set.BijOn d.index {p | p ∈ d} {i | i < d.area} := by
  refine ⟨fun p hp => index_lt_area hp, fun p hp q hq => (index_inj hp hq).1, ?_⟩
  intro i hi
  exact ⟨d.pointAt i, pointAt_mem hi, d.index_pointAt i⟩

end Dimensions

namespace Canvas

/-! ## Rows

The rows are slices of the storage, one behind the other and without anything between them. -/

theorem row_eq_take_drop (c : Canvas) (above : Nat) :
    c.row above = (c.pixels.toList.drop (above * c.dimensions.width)).take c.dimensions.width := by
  rw [row, Array.toList_extract, List.extract_eq_take_drop, Nat.succ_mul, Nat.add_sub_cancel_left]

/-- The first rows are the beginning of the storage. Induction on the number of rows, which adds one
slice at the end of those before. -/
theorem flatten_map_row (c : Canvas) (count : Nat) :
    ((List.range count).map c.row).flatten = c.pixels.toList.take (count * c.dimensions.width) := by
  induction count with
  | zero => simp
  | succ count ih =>
    -- one more row takes the next `width` pixels behind those of the rows before
    rw [List.range_succ, List.map_append, List.map_singleton, List.flatten_concat, ih,
      row_eq_take_drop, ← List.take_add, Nat.succ_mul]

/-- The rows are the whole storage, cut into pieces. With all of them the beginning of the storage
is all of it. -/
theorem flatten_rows (c : Canvas) : c.rows.flatten = c.pixels.toList := by
  -- taking as many pixels as there are places takes all of them
  have hsize : c.pixels.toList.length ≤ c.dimensions.height * c.dimensions.width := by
    rw [Array.length_toList, c.size_pixels, Dimensions.area, Nat.mul_comm]
  rw [rows, flatten_map_row, List.take_of_length_le hsize]

/-! ## Reading

Reading a point with its refusal. What is refused is known by what is not shown, so each fact here
is one about `get?`. -/

theorem get_eq_ok_iff {c : Canvas} {p : Point} {k : Char} : c.get p = .ok k ↔ c.get? p = some k := by
  unfold get
  cases c.get? p <;> simp

/-- A point off the canvas is refused, and the refusal names the point and the size of the canvas.
-/
theorem get_of_not_mem {c : Canvas} {p : Point} (h : p ∉ c.dimensions) :
    c.get p = .error (.outOfBounds p c.dimensions) := by
  rw [get, get?_eq_none_iff.2 h]

theorem exists_get_eq_ok_iff {c : Canvas} {p : Point} :
    (∃ k, c.get p = .ok k) ↔ p ∈ c.dimensions := by
  simp only [get_eq_ok_iff, ← Option.ne_none_iff_exists', ne_eq, get?_eq_none_iff, not_not]

/-- A canvas is known by its dimensions and by what is read from it, refusals included. -/
theorem ext_get {c c' : Canvas} (hdims : c.dimensions = c'.dimensions)
    (hget : ∀ p, c.get p = c'.get p) : c = c' := by
  apply ext_get? hdims
  intro p hp
  obtain ⟨k, hk⟩ := exists_get_eq_ok_iff.2 hp
  rw [get_eq_ok_iff.1 hk, get_eq_ok_iff.1 (hget p ▸ hk)]

/-! ## The printed form

The rows with line feeds between them or behind them. The two forms differ by the one line feed at
the end. -/

/-- With a line feed behind the last row there is one behind each row. Induction on the rows, where
the last one is a case of its own. -/
theorem intercalate_append_lineFeed {rows : List (List Char)} (h : rows ≠ []) :
    ['\n'].intercalate rows ++ ['\n'] = rows.flatMap (· ++ ['\n']) := by
  induction rows with
  | nil => exact absurd rfl h
  | cons row rest ih =>
    cases rest with
    -- a single row has no line feed between rows, and one behind it
    | nil => simp
    | cons next rest =>
      rw [List.intercalate_cons_cons, List.append_assoc, ih (List.cons_ne_nil next rest)]
      rfl

/-- With one more line feed, every row is printed with a line feed behind it. -/
theorem toList_text_append (c : Canvas) :
    (c.text ++ "\n").toList = c.rows.flatMap (· ++ ['\n']) := by
  rw [String.toList_append, text, String.toList_ofList]
  exact intercalate_append_lineFeed c.rows_ne_nil

/-! ## All views

The facts above as one statement about a canvas. They are kept together because no single one of
them says what the canvas looks like. -/

/-- The views of a canvas show the same. -/
structure ViewsAgree (c : Canvas) : Prop where
  /-- The points on the canvas are those whose column and row are. -/
  mem_iff (p : Point) : p ∈ c.dimensions ↔
    (1 ≤ p.col ∧ p.col ≤ c.dimensions.width) ∧ (1 ≤ p.row ∧ p.row ≤ c.dimensions.height)
  /-- Every place of the storage belongs to one of them. -/
  index_bijOn : Set.BijOn c.dimensions.index {p | p ∈ c.dimensions} {i | i < c.dimensions.area}
  /-- They are stored row by row, and each row from left to right. -/
  index_lt_iff (p q : Point) : p ∈ c.dimensions → q ∈ c.dimensions →
    (c.dimensions.index p < c.dimensions.index q ↔ p.row < q.row ∨ p.row = q.row ∧ p.col < q.col)
  /-- A point can be read if it is on the canvas, and is refused otherwise. -/
  get_isOk_iff (p : Point) : (∃ k, c.get p = .ok k) ↔ p ∈ c.dimensions
  get_eq_error_iff (p : Point) :
    c.get p = .error (.outOfBounds p c.dimensions) ↔ p ∉ c.dimensions
  /-- What is read is what is stored at the place of the point. -/
  get_eq_ok_iff_stored (p : Point) (k : Char) :
    c.get p = .ok k ↔ p ∈ c.dimensions ∧ c.pixels[c.dimensions.index p]? = some k
  /-- There are as many rows as the canvas is high, and each is as long as it is wide. -/
  length_rows : c.rows.length = c.dimensions.height
  length_row : ∀ row ∈ c.rows, row.length = c.dimensions.width
  /-- One behind the other, the rows are the storage. -/
  flatten_rows : c.rows.flatten = c.pixels.toList
  /-- What is read is the entry of the row of the point, in the place of its column. -/
  get_eq_ok_iff_entry (p : Point) (k : Char) : p ∈ c.dimensions →
    (c.get p = .ok k ↔ ∃ row, c.rows[p.row - 1]? = some row ∧ row[p.col - 1]? = some k)
  /-- The rows are printed with a line feed between each two. -/
  toList_text : c.text.toList = ['\n'].intercalate c.rows
  toList_text_append : (c.text ++ "\n").toList = c.rows.flatMap (· ++ ['\n'])

/-- The views of every canvas agree, however it came to be as it is. -/
theorem viewsAgree (c : Canvas) : c.ViewsAgree where
  mem_iff _ := Dimensions.mem_iff
  index_bijOn := c.dimensions.index_bijOn
  index_lt_iff _ _ := Dimensions.index_lt_iff
  get_isOk_iff _ := exists_get_eq_ok_iff
  get_eq_error_iff p := by
    refine ⟨?_, get_of_not_mem⟩
    -- a point of the canvas is read, so its reading is no refusal
    intro herror hp
    obtain ⟨k, hk⟩ := exists_get_eq_ok_iff.2 hp
    rw [hk] at herror
    cases herror
  get_eq_ok_iff_stored p k := by
    rw [get_eq_ok_iff]
    constructor
    · intro hk
      have hp := mem_dimensions_of_get? hk
      exact ⟨hp, get?_eq_getElem? hp ▸ hk⟩
    · rintro ⟨hp, hk⟩
      rw [get?_eq_getElem? hp, hk]
  length_rows := c.length_rows
  length_row _ := length_of_mem_rows
  flatten_rows := c.flatten_rows
  get_eq_ok_iff_entry p k hp := by
    rw [get_eq_ok_iff, ← getElem?_rows_bind hp, Option.bind_eq_some_iff]
  toList_text := by rw [text, String.toList_ofList]
  toList_text_append := c.toList_text_append

/-! ## Drawing

A canvas that was drawn on is a canvas like any other. What there is to say about drawing is that
the size stays, and that a pixel shows at its own point alone. -/

theorem dimensions_of_ofSides {width height : Nat} {c : Canvas}
    (h : Canvas.ofSides width height = .ok c) :
    c.dimensions.width = width ∧ c.dimensions.height = height := by
  unfold ofSides at h
  split at h
  · next d hd =>
    cases h
    exact Dimensions.ofSides_eq_ok_iff.1 hd
  · cases h

/-- The canvas after commands, each of which is carried out whether or not those before it succeeded. -/
def drawn (c : Canvas) (commands : List Command) : Canvas :=
  commands.foldl (fun c command => (c.draw command).2) c

theorem dimensions_drawn (c : Canvas) (commands : List Command) :
    (c.drawn commands).dimensions = c.dimensions := by
  induction commands generalizing c with
  | nil => rfl
  | cons command rest ih =>
    show ((c.draw command).2.drawn rest).dimensions = c.dimensions
    rw [ih, dimensions_draw]

/-- A single pixel is painted if its point is on the canvas, and shows nowhere else. -/
theorem get_of_paint_eq_ok {c c' : Canvas} {p : Point} {k : Char} (h : c.paint p k = (.ok (), c')) :
    c'.get p = .ok k ∧ ∀ q, q ≠ p → c'.get q = c.get q := by
  by_cases hp : p ∈ c.dimensions
  · rw [paint_of_mem hp] at h
    cases h
    refine ⟨?_, ?_⟩
    · rw [get_eq_ok_iff, get?_put hp, if_pos rfl]
    · intro q hq
      rw [get, get, get?_put hp, if_neg hq, dimensions_put]
  · rw [paint_of_not_mem hp] at h
    cases h

/-- Whatever is drawn on a new canvas, with or without success, its views agree and it keeps its size. Two
such canvases are the same if they have the same dimensions and the same is read from both, and a pixel
that is painted changes what is read at its own point only. -/
theorem views_of_drawn {width height : Nat} {new : Canvas}
    (hnew : Canvas.ofSides width height = .ok new) (commands : List Command) :
    let c := new.drawn commands
    c.dimensions.width = width ∧ c.dimensions.height = height ∧ c.ViewsAgree ∧
      (∀ width' height' other, Canvas.ofSides width' height' = .ok other → ∀ others,
        let c' := other.drawn others
        c = c' ↔ c.dimensions = c'.dimensions ∧ ∀ p, c.get p = c'.get p) ∧
      ∀ p k, ((c.paint p k).1 = .ok () ↔ p ∈ c.dimensions) ∧
        ∀ c', c.paint p k = (.ok (), c') →
          c'.get p = .ok k ∧ ∀ q, q ≠ p → c'.get q = c.get q := by
  intro c
  have hsides := dimensions_of_ofSides hnew
  rw [← new.dimensions_drawn commands] at hsides
  refine ⟨hsides.1, hsides.2, c.viewsAgree, ?_, ?_⟩
  · intro _ _ other _ others c'
    refine ⟨fun h => h ▸ ⟨rfl, fun _ => rfl⟩, ?_⟩
    rintro ⟨hdims, hget⟩
    exact ext_get hdims hget
  · intro p k
    -- painting asks nothing of the point but to be on the canvas
    refine ⟨?_, fun c' hpaint => get_of_paint_eq_ok hpaint⟩
    by_cases hp : p ∈ c.dimensions
    · simp [paint_of_mem hp, hp]
    · simp [paint_of_not_mem hp, hp]

/-- A line feed in a row is an entry of the row, although it ends a line of the printed form. -/
theorem views_of_drawn_lineFeed :
    let d : Dimensions := ⟨2, 2, by decide, by decide, by decide, by decide⟩
    let c := (blank d).drawn [.paint ⟨2, 1⟩ '\n', .vertical 1 2 9 ' ', .paint ⟨3, 3⟩ 'x']
    Canvas.ofSides 2 2 = .ok (blank d) ∧ c.ViewsAgree ∧ c.text = "O\n\n O" ∧
      c.get ⟨2, 1⟩ = .ok '\n' ∧ ∃ row, c.rows[0]? = some row ∧ row[1]? = some '\n' := by
  intro d c
  have hnew : Canvas.ofSides 2 2 = .ok (blank d) := rfl
  obtain ⟨-, -, hviews, -⟩ := views_of_drawn hnew
    [.paint ⟨2, 1⟩ '\n', .vertical 1 2 9 ' ', .paint ⟨3, 3⟩ 'x']
  have hget : c.get ⟨2, 1⟩ = .ok '\n' := rfl
  have hmem : (⟨2, 1⟩ : Point) ∈ c.dimensions := by decide
  exact ⟨hnew, hviews, by decide +kernel, hget,
    (hviews.get_eq_ok_iff_entry ⟨2, 1⟩ '\n' hmem).1 hget⟩

end Canvas

end PixelScript
