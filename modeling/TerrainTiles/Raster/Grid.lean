import TerrainTiles.Binary.Basic

/-!
# Grids

A grid is a rectangle of single-precision cells, row by row; a void cell is
not-a-number. A grid with rows has the width of its rows, one without has none.
-/

namespace TerrainTiles

structure Grid where
  rows : List (List Single)
  width : Nat
  rectangular : ∀ row ∈ rows, row.length = width
  width_eq_zero : rows = [] → width = 0

namespace Grid

/-- The grid with these rows, if they are equally long. -/
def ofRows? (rows : List (List Single)) : Option Grid :=
  let width := (rows.head?.map List.length).getD 0
  if h : ∀ row ∈ rows, row.length = width then
    some ⟨rows, width, h, fun hr => by simp [width, hr]⟩
  else none

def height (grid : Grid) : Nat := grid.rows.length

def cells (grid : Grid) : List Single := grid.rows.flatten

def cell? (grid : Grid) (row column : Nat) : Option Single :=
  grid.rows[row]? >>= (·[column]?)

def map (grid : Grid) (f : Single → Single) : Grid where
  rows := grid.rows.map (·.map f)
  width := grid.width
  rectangular := by
    intro row h
    obtain ⟨old, ho, rfl⟩ := List.mem_map.mp h
    simpa using grid.rectangular old ho
  width_eq_zero h := grid.width_eq_zero (by simpa using h)

def values (grid : Grid) : List Single := grid.cells.filter fun x => !x.isNaN

/-- A grid without cells, or with void cells only, holds no product. -/
def isVoid (grid : Grid) : Bool := grid.cells.all Binary.isNaN

/-- The smaller of two numbers; of equal ones the second. -/
def lesser (x y : Single) : Single := if x.lt y then x else y

/-- The greater of two numbers; of equal ones the second. -/
def greater (x y : Single) : Single := if y.lt x then x else y

/-- The least and the greatest value; `none` for a void grid. -/
def range? (grid : Grid) : Option (Single × Single) :=
  match grid.values with
  | [] => none
  | x :: rest => some (rest.foldl lesser x, rest.foldl greater x)

theorem cell?_isSome (grid : Grid) (row column : Nat) :
    (grid.cell? row column).isSome = true ↔ row < grid.height ∧ column < grid.width := by
  unfold cell? height
  by_cases h : row < grid.rows.length
  · have hw := grid.rectangular _ (List.getElem_mem h)
    simp [h, hw]
  · simp [h]

theorem mem_cells_of_cell? {grid : Grid} {row column : Nat} {x : Single}
    (h : grid.cell? row column = some x) : x ∈ grid.cells := by
  obtain ⟨cells, hr, hc⟩ := Option.bind_eq_some_iff.mp h
  exact List.mem_flatten.mpr ⟨cells, List.mem_of_getElem? hr, List.mem_of_getElem? hc⟩

theorem isVoid_iff (grid : Grid) : grid.isVoid = true ↔ grid.values = [] := by
  simp [isVoid, values]

end Grid

end TerrainTiles
