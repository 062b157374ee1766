import Chip8.Proofs.Enlargement
import Chip8.Proofs.SpriteCompositing

/-!
# Looking at the raw screen

What the raw machine does to show its screen. It reads one cell, adds the cells up, joins them to lines
of text, or goes through rows and columns and fills a buffer with bytes, from which an imaging library
makes a picture. Of the library only what its documentation says is used (`Imaging.Documented`).

A machine and its view show the same (`Machine.shows_toRaw`), so that what is true of the screen as the
machine shows it is true of the raw one.
-/

namespace Chip8

namespace Raw

/-! ## Cells and lines -/

/-- The cell in a column and row, which must lie on the screen. -/
def getPixel (x y : Int) : Program Int := do
  if (0 ≤ x ∧ x < 64) ∧ 0 ≤ y ∧ y < 32 then
    let row ← item (← get).pixels y
    item row x
  else throw (.error (.misuse (.outside x y)))

/-- The sum of all cells, row by row. -/
def countLit (pixels : List (List Int)) : Int := (pixels.map List.sum).sum

/-- The cells as lines of text, with one text for those that are not zero and one for the others. -/
def text (on off : String) (pixels : List (List Int)) : String :=
  "\n".intercalate (pixels.map fun row => String.join (row.map fun cell => if cell ≠ 0 then on else off))

lemma cell_ne_zero {lit : Bool} : cell lit ≠ 0 ↔ lit = true := by cases lit <;> decide

lemma run_getPixel (x y : Int) (machine : Chip8.Machine) :
    getPixel x y machine.toRaw = match machine.screen.pixel x y with
      | .ok lit => .ok (cell lit) machine.toRaw
      | .error misuse => .error (.error (.misuse misuse)) machine.toRaw := by
  unfold getPixel Screen.pixel
  by_cases inside : (0 ≤ x ∧ x < 64) ∧ 0 ≤ y ∧ y < 32
  · obtain ⟨⟨left, right⟩, above, below⟩ := id inside
    obtain ⟨column, rfl⟩ := Int.eq_ofNat_of_zero_le left
    obtain ⟨row, rfl⟩ := Int.eq_ofNat_of_zero_le above
    have line_eq := @item_cells Machine machine.screen ⟨row, by omega⟩
    have cell_eq := @item_line Machine machine.screen ⟨column, by omega⟩ ⟨row, by omega⟩
    dsimp only at line_eq cell_eq
    rw [if_pos inside, dif_pos inside, run_bind, run_get]
    dsimp only
    rw [run_bind, Machine.toRaw_pixels, line_eq, run_pure]
    dsimp only
    rw [cell_eq, run_pure]
    simp only [Int.toNat_natCast]
  · rw [if_neg inside, dif_neg inside]
    rfl

lemma text_cells (on off : String) (screen : Screen) :
    text on off screen.cells = screen.text on off := by
  unfold text Screen.text Screen.rows Screen.cells
  simp only [List.map_map, Function.comp_def, cell_ne_zero]

lemma bijective_at : Function.Bijective fun place : Fin 64 × Fin 32 => Pixel.at place.1 place.2 := by
  constructor
  · intro place place' same
    obtain ⟨columns, rows⟩ := pixel_at_inj same
    exact Prod.ext columns rows
  · intro place
    obtain ⟨column, row, rfl⟩ := Screen.exists_pixel_iff.1 ⟨place, rfl⟩
    exact ⟨(column, row), rfl⟩

/-- The number of pixels that are on, by their columns and rows. -/
lemma litCount_eq_card (screen : Screen) :
    screen.litCount = Finset.card {place : Fin 64 × Fin 32 | screen.isLit place.1 place.2 = true} := by
  have listed : screen.pixels.toList = (List.finRange 2048).map screen.pixels.get := by
    apply List.ext_getElem
    · rw [Vector.length_toList, List.length_map, List.length_finRange]
    · intro place low high
      rw [Vector.getElem_toList, List.getElem_map, List.getElem_finRange]
      rfl
  have lit : (· == true) ∘ screen.pixels.get = screen.pixels.get := by
    funext place
    exact beq_true _
  rw [Screen.litCount, listed, List.count, List.countP_map, lit, Sprite.countP_finRange]
  refine (Finset.card_bijective _ bijective_at fun place => ?_).symm
  rw [Finset.mem_filter_univ, Finset.mem_filter_univ]
  rfl

lemma countLit_cells (screen : Screen) : countLit screen.cells = screen.litCount := by
  have summed : countLit screen.cells = ∑ row, ∑ column, cell (screen.isLit column row) := by
    unfold countLit Screen.cells
    rw [List.map_map, Fin.sum_univ_def]
    simp only [Fin.sum_univ_def]
    rfl
  rw [summed, litCount_eq_card, Finset.card_filter, Fintype.sum_prod_type_right]
  push_cast
  rfl

/-! ## Bytes -/

/-- Puts 255 into a buffer at the place of each cell of a row that is not zero. -/
def fillRow (row : Int) (cells buffer : List Int) : Program (List Int) :=
  cells.zipIdx.foldlM (fun buffer (cell, column) =>
    if cell ≠ 0 then setByte buffer (row * 64 + column) 255 else return buffer) buffer

/-- Fills a buffer row by row, which shows the screen. -/
def pixelBuffer : Program (List Int) := do
  let rows := (← get).pixels.zipIdx
  let buffer ← rows.foldlM (fun buffer (cells, row) => fillRow row cells buffer) (List.replicate 2048 0)
  modify ({ · with isStale := false })
  return buffer

section
variable {σ α β : Type}

/-- The entries of a list of all numbers below a bound, mapped, with their places. -/
lemma zipIdx_map_finRange {n : Nat} (f : Fin n → α) :
    ((List.finRange n).map f).zipIdx = (List.finRange n).map fun i => (f i, i.val) := by
  apply List.ext_getElem
  · simp
  · intro place low high
    simp

/-- A loop whose steps all succeed is a loop without effects, if what it keeps lets them succeed. -/
lemma foldlM_eq_pure (keeps : β → Prop) {step : β → α → EStateM Trouble σ β} {next : β → α → β}
    (succeeds : ∀ b a, keeps b → step b a = pure (next b a)) (kept : ∀ b a, keeps b → keeps (next b a))
    (entries : List α) {b : β} (initially : keeps b) :
    entries.foldlM step b = pure (entries.foldl next b) := by
  induction entries generalizing b with
  | nil => rfl
  | cons a rest ih =>
    rw [List.foldlM_cons, succeeds b a initially, pure_bind, ih (kept b a initially), List.foldl_cons]

end

/-- The buffer after a pixel has been looked at. -/
def lighten (screen : Screen) (buffer : List Int) (place : Pixel) : List Int :=
  if screen.pixels.get place then buffer.set place 255 else buffer

variable {screen : Screen} {buffer : List Int}

lemma length_lighten (screen : Screen) (buffer : List Int) (place : Pixel) :
    (lighten screen buffer place).length = buffer.length := by
  unfold lighten
  split
  · exact List.length_set
  · rfl

lemma length_foldl_lighten (screen : Screen) (places : List Pixel) (buffer : List Int) :
    (places.foldl (lighten screen) buffer).length = buffer.length := by
  induction places generalizing buffer with
  | nil => rfl
  | cons place rest ih => rw [List.foldl_cons, ih, length_lighten]

lemma getElem?_lighten (screen : Screen) (first place : Pixel) (size : buffer.length = 2048) :
    (lighten screen buffer first)[place.val]? =
      if place = first ∧ screen.pixels.get place = true then some 255 else buffer[place.val]? := by
  have inside : place.val < buffer.length := by omega
  unfold lighten
  by_cases same : place = first
  · subst same
    cases lit : screen.pixels.get place with
    | false => simp
    | true => simp [List.getElem?_set_self inside]
  · have elsewhere : first.val ≠ place.val := fun equal => same (Fin.ext equal.symm)
    split <;> simp [same, List.getElem?_set_ne elsewhere]

/-- After a list of pixels has been looked at, there is 255 for those of them that are on. -/
lemma getElem?_foldl_lighten (screen : Screen) (places : List Pixel) (place : Pixel)
    (size : buffer.length = 2048) :
    (places.foldl (lighten screen) buffer)[place.val]? =
      if place ∈ places ∧ screen.pixels.get place = true then some 255 else buffer[place.val]? := by
  induction places generalizing buffer with
  | nil => simp
  | cons first rest ih =>
    rw [List.foldl_cons, ih (by rw [length_lighten, size]), getElem?_lighten screen first place size]
    simp only [List.mem_cons]
    by_cases lit : screen.pixels.get place = true
    · by_cases later : place ∈ rest <;> simp [lit, later]
    · simp [lit]

/-- The pixels of a row from left to right. -/
def rowPlaces (row : Fin 32) : List Pixel := (List.finRange 64).map (Pixel.at · row)

/-- All pixels, row by row. -/
def places : List Pixel := (List.finRange 32).flatMap rowPlaces

lemma mem_places (place : Pixel) : place ∈ places := by
  obtain ⟨column, row, rfl⟩ := Screen.exists_pixel_iff.1 ⟨place, rfl⟩
  exact List.mem_flatMap.2 ⟨row, List.mem_finRange row, List.mem_map_of_mem (List.mem_finRange column)⟩

lemma fillRow_eq (screen : Screen) (row : Fin 32) (size : buffer.length = 2048) :
    fillRow row.val (line screen row) buffer =
      pure ((rowPlaces row).foldl (lighten screen) buffer) := by
  unfold fillRow
  rw [line, zipIdx_map_finRange, List.foldlM_map, rowPlaces, List.foldl_map]
  refine foldlM_eq_pure (·.length = 2048) (fun buffer column size => ?_)
    (fun buffer column size => (length_lighten screen buffer _).trans size) _ size
  have place : (row.val : Int) * 64 + column.val = (Pixel.at column row).val := by
    unfold Pixel.at
    push_cast
    omega
  have inside : (Pixel.at column row).val < buffer.length := size.symm ▸ (Pixel.at column row).isLt
  have byte : (setByte buffer (Pixel.at column row).val 255 : Program (List Int)) =
      pure (buffer.set (Pixel.at column row) 255) := by
    rw [setByte, if_pos (by decide), setItem_natCast inside]
  dsimp only
  rw [place, byte, lighten]
  simp only [cell_ne_zero]
  exact (apply_ite pure _ _ _).symm

lemma foldlM_rows (screen : Screen) (size : buffer.length = 2048) :
    screen.cells.zipIdx.foldlM (fun buffer (cells, row) => fillRow row cells buffer) buffer =
      (pure (places.foldl (lighten screen) buffer) : Program (List Int)) := by
  have rows : screen.cells = (List.finRange 32).map (line screen) := rfl
  rw [rows, zipIdx_map_finRange, List.foldlM_map, places, List.foldl_flatMap]
  exact foldlM_eq_pure (·.length = 2048) (fun buffer row => fillRow_eq screen row)
    (fun buffer row size => (length_foldl_lighten screen (rowPlaces row) buffer).trans size) _ size

lemma getElem?_takeBytes (screen : Screen) (place : Pixel) :
    screen.takeBytes.1[place.val]? = some (if screen.pixels.get place then 255 else 0) := by
  have inside : place.val < screen.pixels.toList.length := by
    rw [Vector.length_toList]
    exact place.isLt
  rw [Screen.takeBytes, List.getElem?_map, List.getElem?_eq_getElem inside, Vector.getElem_toList]
  rfl

lemma length_takeBytes (screen : Screen) : screen.takeBytes.1.length = 2048 := by
  rw [Screen.takeBytes, List.length_map, Vector.length_toList]

/-- The buffer holds the bytes that the machine shows. -/
lemma foldl_places (screen : Screen) :
    places.foldl (lighten screen) (List.replicate 2048 0) = numbers screen.takeBytes.1 := by
  have size : (List.replicate 2048 (0 : Int)).length = 2048 := List.length_replicate
  apply List.ext_getElem?
  intro place
  by_cases inside : place < 2048
  · have lit := getElem?_foldl_lighten screen places ⟨place, inside⟩ size
    have dark : (List.replicate 2048 (0 : Int))[place]? = some 0 := by
      rw [List.getElem?_replicate, if_pos inside]
    dsimp only at lit
    rw [lit, numbers, List.getElem?_map, getElem?_takeBytes screen ⟨place, inside⟩, dark]
    simp only [mem_places, true_and]
    cases screen.pixels.get ⟨place, inside⟩ <;> rfl
  · rw [List.getElem?_eq_none, List.getElem?_eq_none]
    · rw [length_numbers, length_takeBytes]
      omega
    · rw [length_foldl_lighten, size]
      omega

lemma run_pixelBuffer (machine : Chip8.Machine) :
    pixelBuffer machine.toRaw = .ok (numbers machine.screen.takeBytes.1)
      { machine.toRaw with isStale := false } := by
  unfold pixelBuffer
  rw [run_bind, run_get]
  dsimp only
  rw [run_bind, Machine.toRaw_pixels, foldlM_rows machine.screen List.length_replicate, run_pure,
    foldl_places]
  rfl

end Raw

/-! ## Pictures -/

/-- What pictures need of an imaging library. -/
structure Imaging where
  /-- Masks, which are pictures in shades of grey. -/
  Mask : Type
  Image : Type
  /-- A mask of a width and height, made of a byte for every pixel, line by line. -/
  mask : Nat → Nat → List Int → Mask
  /-- An image of a width and height in one colour. -/
  filled : Nat → Nat → Colour → Image
  /-- Paints an image in one colour as a mask says. -/
  paste : Colour → Mask → Image → Image
  /-- Brings an image to a width and height without mixing colours. -/
  resize : Nat → Nat → Image → Image
  /-- The width and height of an image. -/
  size : Image → Nat × Nat
  /-- The pixel in a column of a line. -/
  pixel? : Image → Nat → Nat → Option Colour

/-- A library does what its documentation says: where a mask has 255 an image is painted, where it has
zero the image is as before, and if an image is resized to a multiple of its size then every pixel is
repeated. -/
structure Imaging.Documented (library : Imaging) : Prop where
  size_filled (width height : Nat) (colour : Colour) :
    library.size (library.filled width height colour) = (width, height)
  pixel_filled {width height column line : Nat} (colour : Colour) (left : column < width)
    (above : line < height) :
    library.pixel? (library.filled width height colour) column line = some colour
  size_paste (colour : Colour) (mask : library.Mask) (image : library.Image) :
    library.size (library.paste colour mask image) = library.size image
  pixel_paste {width height column line : Nat} {bytes : List Int} {image : library.Image}
    (colour : Colour) (size : library.size image = (width, height))
    (length : bytes.length = width * height) (extreme : ∀ byte ∈ bytes, byte = 0 ∨ byte = 255)
    (left : column < width) (above : line < height) :
    library.pixel? (library.paste colour (library.mask width height bytes) image) column line =
      if bytes[width * line + column]? = some 255 then some colour
      else library.pixel? image column line
  size_resize (width height : Nat) (image : library.Image) :
    library.size (library.resize width height image) = (width, height)
  pixel_resize {width height factor column line : Nat} {image : library.Image}
    (size : library.size image = (width, height)) (positive : 0 < factor)
    (left : column < width * factor) (above : line < height * factor) :
    library.pixel? (library.resize (width * factor) (height * factor) image) column line =
      library.pixel? image (column / factor) (line / factor)

/-- A library that keeps images as functions. A resized image takes its pixels from where their middles
were. -/
def Imaging.plain : Imaging where
  Mask := Nat × List Int
  Image := (Nat × Nat) × (Nat → Nat → Colour)
  mask width _ bytes := (width, bytes)
  filled width height colour := ((width, height), fun _ _ => colour)
  paste colour mask image := (image.1, fun column line =>
    if mask.2[mask.1 * line + column]? = some 255 then colour else image.2 column line)
  resize width height image := ((width, height), fun column line =>
    image.2 ((2 * column + 1) * image.1.1 / (2 * width)) ((2 * line + 1) * image.1.2 / (2 * height)))
  size := Prod.fst
  pixel? image column line :=
    if column < image.1.1 ∧ line < image.1.2 then some (image.2 column line) else none

/-- The middle of a pixel in an enlarged image lies in the pixel that it repeats. -/
lemma Imaging.middle_div {width : Nat} (positive : 0 < width) (place factor : Nat) :
    (2 * place + 1) * width / (2 * (width * factor)) = place / factor := by
  have half : (2 * place + 1) / 2 = place := by omega
  rw [Nat.mul_left_comm 2, Nat.mul_comm _ width, Nat.mul_div_mul_left _ _ positive,
    ← Nat.div_div_eq_div_mul, half]

lemma Imaging.documented_plain : Imaging.plain.Documented where
  size_filled _ _ _ := rfl
  pixel_filled _ left above := if_pos ⟨left, above⟩
  size_paste _ _ _ := rfl
  pixel_paste {width height column line bytes image} colour size _ _ left above := by
    have inside : column < image.1.1 ∧ line < image.1.2 := by
      rw [show image.1 = (width, height) from size]
      exact ⟨left, above⟩
    have before : plain.pixel? image column line = some (image.2 column line) := if_pos inside
    rw [before]
    exact (if_pos inside).trans (apply_ite some _ _ _)
  size_resize _ _ _ := rfl
  pixel_resize {width height factor column line image} size positive left above := by
    have inside : column / factor < width := Nat.div_lt_of_lt_mul (Nat.mul_comm width factor ▸ left)
    have below : line / factor < height := Nat.div_lt_of_lt_mul (Nat.mul_comm height factor ▸ above)
    show (if column < width * factor ∧ line < height * factor then
        some (image.2 ((2 * column + 1) * image.1.1 / (2 * (width * factor)))
          ((2 * line + 1) * image.1.2 / (2 * (height * factor))))
      else none) = if column / factor < image.1.1 ∧ line / factor < image.1.2 then _ else none
    rw [show image.1 = (width, height) from size, if_pos ⟨left, above⟩, if_pos ⟨inside, below⟩,
      middle_div (Nat.zero_lt_of_lt inside), middle_div (Nat.zero_lt_of_lt below)]

namespace Raw

variable {library : Imaging} {machine : Chip8.Machine}

/-- A picture of the screen: the colour of the cells that are zero everywhere, the other one painted
over it through the bytes of the screen, and the whole enlarged unless it has the right size. -/
def render (library : Imaging) (scale : Int) (on off : Colour) : Program library.Image := do
  if scale < 1 then throw (.error (.misuse (.scale scale)))
  else
    let mask := library.mask 64 32 (← pixelBuffer)
    let image := library.paste on mask (library.filled 64 32 off)
    return if scale = 1 then image else library.resize (64 * scale.toNat) (32 * scale.toNat) image

/-- The picture before it is enlarged. -/
def painted (library : Imaging) (screen : Screen) (on off : Colour) : library.Image :=
  library.paste on (library.mask 64 32 (numbers screen.takeBytes.1)) (library.filled 64 32 off)

lemma size_painted (documented : library.Documented) (screen : Screen) (on off : Colour) :
    library.size (painted library screen on off) = (64, 32) :=
  (documented.size_paste _ _ _).trans (documented.size_filled 64 32 off)

lemma extreme_numbers (screen : Screen) :
    ∀ byte ∈ numbers screen.takeBytes.1, byte = 0 ∨ byte = 255 := by
  refine List.forall_mem_map.2 (List.forall_mem_map.2 fun lit _ => ?_)
  cases lit
  · exact .inl rfl
  · exact .inr rfl

lemma pixel?_painted (documented : library.Documented) (screen : Screen) (on off : Colour)
    (column : Fin 64) (row : Fin 32) :
    library.pixel? (painted library screen on off) column row =
      some (if screen.isLit column row then on else off) := by
  have length : (numbers screen.takeBytes.1).length = 64 * 32 :=
    (length_numbers _).trans (length_takeBytes screen)
  have byte : (numbers screen.takeBytes.1)[64 * row.val + column.val]? =
      some (if screen.isLit column row then 255 else 0) := by
    have lit : screen.isLit column row = screen.pixels.get (Pixel.at column row) := rfl
    have found := getElem?_takeBytes screen (Pixel.at column row)
    rw [numbers, List.getElem?_map, show 64 * row.val + column.val = (Pixel.at column row).val from rfl,
      found, lit]
    cases screen.pixels.get (Pixel.at column row) <;> rfl
  rw [painted, documented.pixel_paste on (documented.size_filled 64 32 off) length
    (extreme_numbers screen) column.isLt row.isLt, byte,
    documented.pixel_filled off column.isLt row.isLt]
  cases screen.isLit column row <;> rfl

/-- The picture in its final size: every pixel of the one before is repeated. -/
def rendered (library : Imaging) (scale : Int) (on off : Colour) (screen : Screen) : library.Image :=
  let image := painted library screen on off
  if scale = 1 then image else library.resize (64 * scale.toNat) (32 * scale.toNat) image

lemma size_rendered (documented : library.Documented) (scale : Int) (on off : Colour)
    (screen : Screen) :
    library.size (rendered library scale on off screen) = (64 * scale.toNat, 32 * scale.toNat) := by
  unfold rendered
  dsimp only
  split
  next one => rw [size_painted documented, one]; rfl
  next => rw [documented.size_resize]

lemma pixel?_rendered (documented : library.Documented) {scale : Int} (positive : 1 ≤ scale)
    (on off : Colour) (screen : Screen) {column line : Nat} (left : column < 64 * scale.toNat)
    (above : line < 32 * scale.toNat) :
    library.pixel? (rendered library scale on off screen) column line =
      library.pixel? (painted library screen on off) (column / scale.toNat) (line / scale.toNat) := by
  unfold rendered
  dsimp only
  split
  next one => rw [one, Int.toNat_one, Nat.div_one, Nat.div_one]
  next =>
    have enlarges : 0 < scale.toNat := Int.pos_iff_toNat_pos.1 positive
    exact documented.pixel_resize (size_painted documented screen on off) enlarges left above

lemma isPicture_rendered (documented : library.Documented) {scale : Int} (positive : 1 ≤ scale)
    (on off : Colour) (screen : Screen) :
    let image := rendered library scale on off screen
    screen.IsPicture scale.toNat on off (library.size image).1 (library.size image).2
      (library.pixel? image) where
  width := congrArg Prod.fst (size_rendered documented scale on off screen)
  height := congrArg Prod.snd (size_rendered documented scale on off screen)
  pixel {column line} left above := by
    have inside : column / scale.toNat < 64 := Nat.div_lt_of_lt_mul (by omega)
    have below : line / scale.toNat < 32 := Nat.div_lt_of_lt_mul (by omega)
    refine ⟨_, screen.pixel_eq ⟨_, inside⟩ ⟨_, below⟩, ?_⟩
    rw [pixel?_rendered documented positive on off screen left above]
    exact pixel?_painted documented screen on off ⟨_, inside⟩ ⟨_, below⟩

lemma run_render (library : Imaging) (scale : Int) (on off : Colour) (machine : Chip8.Machine) :
    render library scale on off machine.toRaw =
      if scale < 1 then .error (.error (.misuse (.scale scale))) machine.toRaw
      else .ok (rendered library scale on off machine.screen) { machine.toRaw with isStale := false } := by
  unfold render
  split
  next => rfl
  next =>
    rw [run_bind, run_pixelBuffer]
    rfl

/-! ## Views -/

/-- A raw machine shows what a screen shows: one cell, the cells, their number, their text, their bytes,
and pictures at every scale. -/
structure Machine.Shows (raw : Machine) (screen : Screen) (library : Imaging) : Prop where
  getPixel (x y : Int) : getPixel x y raw = match screen.pixel x y with
    | .ok lit => .ok (cell lit) raw
    | .error misuse => .error (.error (.misuse misuse)) raw
  rows : raw.pixels = screen.rows.map fun row => row.map cell
  countLit : countLit raw.pixels = screen.litCount
  text (on off : String) : text on off raw.pixels = screen.text on off
  pixelBuffer : pixelBuffer raw = .ok (numbers screen.takeBytes.1) { raw with isStale := false }
  render {scale : Int} (positive : 1 ≤ scale) (on off : Colour) :
    ∃ image, render library scale on off raw = .ok image { raw with isStale := false } ∧
      screen.IsPicture scale.toNat on off (library.size image).1 (library.size image).2
        (library.pixel? image)
  refuses {scale : Int} (small : scale < 1) (on off : Colour) :
    Raw.render library scale on off raw = .error (.error (.misuse (.scale scale))) raw

/-- The view of a machine shows what the machine shows. -/
theorem Machine.shows_toRaw (documented : library.Documented) (machine : Chip8.Machine) :
    machine.toRaw.Shows machine.screen library where
  getPixel x y := run_getPixel x y machine
  rows := by
    rw [Machine.toRaw_pixels]
    unfold Screen.cells Screen.rows
    simp only [List.map_map, Function.comp_def]
  countLit := countLit_cells machine.screen
  text on off := text_cells on off machine.screen
  pixelBuffer := run_pixelBuffer machine
  render {scale} positive on off := by
    rw [run_render, if_neg (by omega)]
    exact ⟨_, rfl, isPicture_rendered documented positive on off machine.screen⟩
  refuses small on off := by rw [run_render, if_pos small]

end Raw

end Chip8
