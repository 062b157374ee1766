import Chip8.Proofs.Fields
import Chip8.Proofs.Raw.Showing

/-!
# All views of the screen agree

The screen is seen pixel by pixel, as rows, as bytes, as lines of text, as a number of pixels that are
on, and in pictures. All of them show one thing: whether the pixel in a column and row is on
(`Screen.ShowsAt`).
-/

namespace Chip8

open Numeral

namespace Screen

/-- The lines of a text. -/
def linesOf (text : String) : List (List Char) := text.toList.splitOn '\n'

/-- The views of a screen show one state in a column and row. -/
structure ShowsAt (screen : Screen) (column row : Nat) (lit : Bool) : Prop where
  pixel : screen.pixel column row = .ok lit
  rows : screen.rows[row]?.bind (·[column]?) = some lit
  byte : screen.takeBytes.1[64 * row + column]? = some (if lit then 255 else 0)
  char : (linesOf screen.text)[row]?.bind (·[column]?) = some (if lit then '#' else '.')

/-! ## Text -/

/-- A row as characters. -/
def chars (row : List Bool) : List Char := row.map fun lit => if lit then '#' else '.'

lemma toList_join (row : List Bool) :
    (String.join (row.map fun lit => if lit then "#" else ".")).toList = chars row := by
  have char (lit : Bool) : (if lit then "#" else ".").toList = [if lit then '#' else '.'] := by
    cases lit <;> rfl
  rw [String.toList_join, List.flatMap_map, chars, List.map_eq_flatMap]
  simp only [char]

lemma newline_notMem_chars (row : List Bool) : '\n' ∉ chars row := by
  have other (lit : Bool) : (if lit then '#' else '.') ≠ '\n' := by cases lit <;> decide
  simp [chars, other]

/-- The lines of the text are the rows of the screen. -/
lemma linesOf_text (screen : Screen) : linesOf screen.text = screen.rows.map chars := by
  have nonempty : screen.rows.map chars ≠ [] := by
    intro isEmpty
    have length := screen.length_rows
    rw [List.map_eq_nil_iff.1 isEmpty] at length
    cases length
  have joined : screen.text.toList = ['\n'].intercalate (screen.rows.map chars) := by
    rw [text, String.toList_intercalate, List.map_map]
    simp only [Function.comp_def, toList_join]
    rfl
  rw [linesOf, joined, List.splitOn_intercalate '\n' _ nonempty]
  exact List.forall_mem_map.2 fun row _ => newline_notMem_chars row

/-! ## Agreement -/

lemma showsAt (screen : Screen) (column : Fin 64) (row : Fin 32) :
    screen.ShowsAt column row (screen.isLit column row) where
  pixel := screen.pixel_eq column row
  rows := screen.rows_getElem? column row
  byte := Raw.getElem?_takeBytes screen (Pixel.at column row)
  char := by
    obtain ⟨line, line_eq, lit_eq⟩ := Option.bind_eq_some_iff.1 (screen.rows_getElem? column row)
    rw [linesOf_text, List.getElem?_map, line_eq, Option.map_some, Option.bind_some, chars,
      List.getElem?_map, lit_eq, Option.map_some]

section
variable {screen : Screen} {x y : Int}

lemma pixel_of_outside (outside : ¬((0 ≤ x ∧ x < 64) ∧ 0 ≤ y ∧ y < 32)) :
    screen.pixel x y = .error (.outside x y) := dif_neg outside

lemma pixel_of_inside (inside : (0 ≤ x ∧ x < 64) ∧ 0 ≤ y ∧ y < 32) :
    ∃ lit, screen.pixel x y = .ok lit := ⟨_, dif_pos inside⟩

/-- A pixel outside the screen is named, if its coordinates can be written. -/
lemma pixel_eq_error_iff (short : IsShort x) (short' : IsShort y) :
    screen.pixel x y = .error (.pixel x y) ↔ ¬((0 ≤ x ∧ x < 64) ∧ 0 ≤ y ∧ y < 32) := by
  constructor
  · intro refused inside
    obtain ⟨lit, shown⟩ := screen.pixel_of_inside inside
    cases shown.symm.trans refused
  · intro outside
    rw [pixel_of_outside outside, Misuse.outside, if_pos ⟨short, short'⟩]

/-- All coordinates on the screen can be written. -/
lemma isShort_of_inside (inside : (0 ≤ x ∧ x < 64) ∧ 0 ≤ y ∧ y < 32) : IsShort x ∧ IsShort y := by
  obtain ⟨⟨left, right⟩, above, below⟩ := inside
  obtain ⟨column, rfl⟩ := Int.eq_ofNat_of_zero_le left
  obtain ⟨row, rfl⟩ := Int.eq_ofNat_of_zero_le above
  exact ⟨isShort_of_lt (by omega), isShort_of_lt (by omega)⟩

lemma pixel_eq_tooManyDigits_iff :
    screen.pixel x y = .error .tooManyDigits ↔ ¬(IsShort x ∧ IsShort y) := by
  constructor
  · intro refused short
    by_cases inside : (0 ≤ x ∧ x < 64) ∧ 0 ≤ y ∧ y < 32
    · obtain ⟨lit, shown⟩ := screen.pixel_of_inside inside
      cases shown.symm.trans refused
    · cases ((pixel_eq_error_iff short.1 short.2).2 inside).symm.trans refused
  · intro long
    have outside := mt isShort_of_inside long
    rw [pixel_of_outside outside, Misuse.outside, if_neg long]

end

lemma litCount_eq (screen : Screen) :
    screen.litCount =
      Finset.card {place : Fin 64 × Fin 32 | screen.pixel place.1 place.2 = .ok true} := by
  rw [Raw.litCount_eq_card]
  simp only [pixel_eq, Except.ok.injEq]

lemma takePicture_eq {screen : Screen} {scale : Int} (positive : 1 ≤ scale) {on off : Paint}
    {bright dark : Colour} (on_eq : on.colour = .ok bright) (off_eq : off.colour = .ok dark) :
    takePicture scale on off screen =
      if scale.toNat < Raster.scaleLimit then
        .ok (screen.image scale.toNat bright dark) screen.acknowledge
      else if 64 * scale.toNat < 0x80000000 then .error .pictureTooLarge screen.acknowledge
      else .error (.wideNumber (64 * scale.toNat : Nat)) screen.acknowledge := by
  unfold takePicture
  rw [if_neg (by omega), picture_eq on_eq off_eq]
  split_ifs <;> rfl

lemma lengths_rows (screen : Screen) : screen.rows.map List.length = List.replicate 32 64 := by
  unfold rows
  simp only [List.map_map, Function.comp_def, List.length_map, List.length_finRange, List.map_const']

lemma lengths_linesOf_text (screen : Screen) :
    (linesOf screen.text).map List.length = List.replicate 32 64 := by
  rw [linesOf_text, List.map_map, ← lengths_rows screen]
  exact List.map_congr_left fun row _ => List.length_map _

/-- A picture comes out up to a certain scale, and from there on it is refused for its size. -/
lemma takePicture_cases (screen : Screen) {scale : Int} (positive : 1 ≤ scale) {on off : Paint}
    {bright dark : Colour} (on_eq : on.colour = .ok bright) (off_eq : off.colour = .ok dark) :
    if scale < Raster.scaleLimit then
      ∃ raster, takePicture scale on off screen = .ok raster screen.acknowledge ∧
        screen.IsPicture scale.toNat bright dark raster.width raster.height raster.pixel?
    else
      ∃ misuse ∈ [Misuse.pictureTooLarge, .wideNumber (64 * scale)],
        takePicture scale on off screen = .error misuse screen.acknowledge := by
  rw [takePicture_eq positive on_eq off_eq]
  split
  next small =>
    rw [if_pos (by omega)]
    exact ⟨_, rfl, screen.isPicture_image (by omega) bright dark⟩
  next large =>
    have wide : ((64 * scale.toNat : Nat) : Int) = 64 * scale := by omega
    rw [if_neg (by omega), wide]
    split
    · exact ⟨_, List.mem_cons_self, rfl⟩
    · exact ⟨_, List.mem_cons_of_mem _ List.mem_cons_self, rfl⟩

/-- All views of the screen agree, whatever is on it. A single pixel can be looked at just on the
screen, and one outside is named in the error, unless a coordinate has too many digits for that. On the
screen it is on or off, and the rows, the bytes and the lines of text, all of which have the size of the
screen, show the same in its place. The number of pixels that are on is the number of places where they
show it. A picture at a scale shows every pixel as a square of that size in the colour for it, for all
colours that a library takes, among them all with parts that are bytes; if the picture can be held in
memory it comes out, and a scale below one is refused. The machine of plain numbers shows all of this
just so: it goes through rows and columns of cells each time, and through any library that does what its
documentation says it makes the picture at every scale. -/
theorem views_agree {library : Imaging} (documented : library.Documented) (machine : Machine) :
    let screen := machine.screen
    (∀ x y : Int, IsShort x → IsShort y →
      (screen.pixel x y = .error (.pixel x y) ↔ ¬((0 ≤ x ∧ x < 64) ∧ 0 ≤ y ∧ y < 32))) ∧
    (∀ x y : Int, screen.pixel x y = .error .tooManyDigits ↔ ¬(IsShort x ∧ IsShort y)) ∧
    (∀ column row : Nat, column < 64 → row < 32 → ∃ lit, screen.ShowsAt column row lit) ∧
    (screen.rows.map List.length = List.replicate 32 64 ∧
      (linesOf screen.text).map List.length = List.replicate 32 64 ∧
      screen.takeBytes.1.length = 2048) ∧
    screen.litCount =
      Finset.card {place : Fin 64 × Fin 32 | screen.pixel place.1 place.2 = .ok true} ∧
    (∀ scale : Int, 1 ≤ scale → ∀ (on off : Paint) (bright dark : Colour),
      on.colour = .ok bright → off.colour = .ok dark →
      if scale < Raster.scaleLimit then
        ∃ raster, takePicture scale on off screen = .ok raster screen.acknowledge ∧
          screen.IsPicture scale.toNat bright dark raster.width raster.height raster.pixel?
      else
        ∃ misuse ∈ [Misuse.pictureTooLarge, .wideNumber (64 * scale)],
          takePicture scale on off screen = .error misuse screen.acknowledge) ∧
    (∀ colour, (Paint.ofColour colour).colour = .ok colour) ∧
    (∀ scale < 1, ∀ on off, takePicture scale on off screen = .error (.scale scale) screen) ∧
    machine.toRaw.Shows screen library := by
  intro screen
  refine ⟨fun x y => pixel_eq_error_iff, fun x y => pixel_eq_tooManyDigits_iff,
    fun column row left above => ?_,
    ⟨screen.lengths_rows, screen.lengths_linesOf_text, Raw.length_takeBytes screen⟩, screen.litCount_eq,
    fun scale positive on off bright dark => screen.takePicture_cases positive, Paint.colour_ofColour,
    fun scale small on off => ?_, Raw.Machine.shows_toRaw documented machine⟩
  · exact ⟨_, screen.showsAt ⟨column, left⟩ ⟨row, above⟩⟩
  · exact if_pos small

/-- A machine with one pixel on, in the sixth column of the third row. -/
def dotted : Machine :=
  { Machine.powerOn .empty (.cycling []) false with screen := (blank.draw 5 2 [0x80] false).2 }

theorem views_agree_off_diagonal :
    dotted.screen.pixel 5 2 = .ok true ∧ dotted.screen.ShowsAt 5 2 true ∧
    (∃ raster, takePicture 3 .white .black dotted.screen = .ok raster dotted.screen.acknowledge ∧
      raster.pixel? 17 8 = some .white) ∧
    (∃ image, Raw.render .plain 0x40000 .white .black dotted.toRaw =
        .ok image { dotted.toRaw with isStale := false } ∧
      Imaging.plain.size image = (0x1000000, 0x800000)) := by
  obtain ⟨-, -, shows, -, -, pictures, colours, -, raw⟩ := views_agree Imaging.documented_plain dotted
  have lit : dotted.screen.pixel 5 2 = .ok true := by decide +kernel
  refine ⟨lit, ?_, ?_, ?_⟩
  · obtain ⟨lit', shown⟩ := shows 5 2 (by decide) (by decide)
    obtain rfl : lit' = true := Except.ok.inj (shown.pixel.symm.trans lit)
    exact shown
  · have picture := pictures 3 (by decide) .white .black .white .black
      (colours .white) (colours .black)
    rw [if_pos (by decide)] at picture
    obtain ⟨raster, taken, isPicture⟩ := picture
    obtain ⟨lit', pixel, shown⟩ := isPicture.pixel (by decide : 17 < _) (by decide : 8 < _)
    obtain rfl : lit' = true := Except.ok.inj (pixel.symm.trans lit)
    exact ⟨raster, taken, shown⟩
  · obtain ⟨image, taken, isPicture⟩ := raw.render (by decide : (1 : Int) ≤ 0x40000) .white .black
    exact ⟨image, taken, Prod.ext isPicture.width isPicture.height⟩

/-- Not every pixel outside is named, and not every picture comes out: a coordinate with 4301 digits
cannot be written, and a line of 2147483648 pixels is too long for a picture. -/
theorem views_refused_beyond_limits :
    blank.pixel (10 ^ 4300) 0 = .error .tooManyDigits ∧
    takePicture 0x2000000 .white .black blank =
      .error (.wideNumber 0x80000000) blank.acknowledge := by
  constructor
  · exact pixel_eq_tooManyDigits_iff.2 (by decide +kernel)
  · have white : Paint.white.colour = .ok .white := Paint.colour_ofColour .white
    have black : Paint.black.colour = .ok .black := Paint.colour_ofColour .black
    exact (takePicture_eq (by decide) white black).trans rfl

end Screen

end Chip8
