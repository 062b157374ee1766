import Chip8.Screen.Basic
import Mathlib

/-!
# Enlarged pictures

A picture of the screen shows every pixel as a square. The lines of a picture are kept as runs, and all
that happens to runs when a picture is enlarged is that they grow; so the pixel in a column and line of
the enlarged picture is the one that stood in the column and line divided by the factor
(`Raster.pixel?_enlarge`). Up to a certain scale a picture of the screen always comes out
(`Screen.picture_eq`).
-/

namespace Chip8

/-! ## Runs -/

namespace Runs

variable {α β : Type} {factor : Nat}

/-- If every entry is repeated, an entry stands where its place is a multiple of the factor, and behind.
-/
lemma getElem?_flatMap_replicate (positive : 0 < factor) (entries : List α) (place : Nat) :
    (entries.flatMap (List.replicate factor))[place]? = entries[place / factor]? := by
  induction entries generalizing place with
  | nil => simp
  | cons entry rest ih =>
    rw [List.flatMap_cons, List.getElem?_append, List.length_replicate]
    split
    next own => rw [Nat.div_eq_of_lt own, List.getElem?_cons_zero, List.getElem?_replicate, if_pos own]
    next later =>
      have one : place / factor = (place - factor) / factor + 1 :=
        Nat.div_eq_sub_div positive (by omega)
      rw [ih, one, List.getElem?_cons_succ]

lemma expand_stretch (factor : Nat) (runs : Runs α) :
    (stretch factor runs).expand = runs.expand.flatMap (List.replicate factor) := by
  unfold stretch expand
  rw [List.flatMap_map, List.flatMap_assoc]
  refine List.flatMap_congr fun run _ => ?_
  rw [List.flatMap_replicate, List.flatten_replicate_replicate]

lemma getElem?_expand_stretch (positive : 0 < factor) (runs : Runs α) (place : Nat) :
    (stretch factor runs).expand[place]? = runs.expand[place / factor]? := by
  rw [expand_stretch, getElem?_flatMap_replicate positive]

lemma expand_mapEntries (f : α → β) (runs : Runs α) :
    (mapEntries f runs).expand = runs.expand.map f := by
  unfold mapEntries expand
  rw [List.flatMap_map, List.map_flatMap]
  refine List.flatMap_congr fun run _ => ?_
  rw [List.map_replicate]

lemma size_stretch (factor : Nat) (runs : Runs α) :
    size (stretch factor runs) = size runs * factor := by
  induction runs with
  | nil => exact (Nat.zero_mul factor).symm
  | cons run rest ih =>
    show run.1 * factor + size (stretch factor rest) = (run.1 + size rest) * factor
    rw [ih, Nat.add_mul]

lemma size_mapEntries (f : α → β) (runs : Runs α) : size (mapEntries f runs) = size runs := by
  rw [← length_expand, expand_mapEntries, List.length_map, length_expand]

end Runs

/-! ## Pictures -/

namespace Raster

variable {factor : Nat}

lemma pixel?_enlarge (positive : 0 < factor) (raster : Raster) (column line : Nat) :
    (raster.enlarge factor).pixel? column line = raster.pixel? (column / factor) (line / factor) := by
  unfold pixel? enlarge
  dsimp only
  rw [Runs.getElem?_expand_stretch positive, Runs.expand_mapEntries, List.getElem?_map]
  cases raster.lines.expand[line / factor]? with
  | none => rfl
  | some runs => exact Runs.getElem?_expand_stretch positive runs column

lemma height_enlarge (factor : Nat) (raster : Raster) :
    (raster.enlarge factor).height = raster.height * factor := by
  unfold height enlarge
  dsimp only
  rw [Runs.size_stretch, Runs.size_mapEntries]

lemma height_ofLines (width : Nat) (lines : List (List Colour)) :
    (ofLines width lines).height = lines.length := by
  unfold height ofLines
  dsimp only
  rw [← Runs.length_expand, Runs.expand_ofList, List.length_map]

lemma pixel?_ofLines (width : Nat) (lines : List (List Colour)) (column line : Nat) :
    (ofLines width lines).pixel? column line = lines[line]?.bind (·[column]?) := by
  unfold pixel? ofLines
  dsimp only
  rw [Runs.expand_ofList, List.getElem?_map]
  cases lines[line]? with
  | none => rfl
  | some colours => exact congrArg (·[column]?) (Runs.expand_ofList colours)

/-- The scale from which on a picture of the screen does not fit in memory. -/
def scaleLimit : Nat := 0x20000

lemma area_lt_iff (factor : Nat) :
    (64 * factor : Nat) * (32 * factor : Nat) * 4 < (memoryLimit : Int) ↔ factor < scaleLimit := by
  unfold memoryLimit scaleLimit
  rw [← Nat.mul_self_lt_mul_self_iff]
  norm_cast
  rw [Nat.mul_mul_mul_comm]
  omega

lemma narrow_of_lt {number : Nat} (small : number < 0x80000000) :
    Picture.narrow number = pure (number : Int) := by
  unfold Picture.narrow SignedWord.fits32
  rw [← Bool.decide_and, if_pos (decide_eq_true (by omega))]
  rfl

lemma narrow_of_le {number : Nat} (large : 0x80000000 ≤ number) :
    Picture.narrow number = throw (.wideNumber number) := by
  unfold Picture.narrow SignedWord.fits32
  rw [← Bool.decide_and, if_neg (by rw [decide_eq_true_iff]; omega)]
  rfl

/-- A picture as large as the screen is enlarged up to a limit. Above it the whole picture is too large,
and above another one it is even too wide. -/
lemma enlarge?_eq {raster : Raster} (width : raster.width = 64) (height : raster.height = 32)
    (factor : Nat) :
    raster.enlarge? factor =
      if factor < scaleLimit then .ok (raster.enlarge factor)
      else if 64 * factor < 0x80000000 then .error .pictureTooLarge
      else .error (.wideNumber (64 * factor : Nat)) := by
  rw [enlarge?, width, height]
  by_cases narrow : 64 * factor < 0x80000000
  · rw [narrow_of_lt narrow, narrow_of_lt (by omega), pure_bind, pure_bind, if_pos narrow]
    simp only [area_lt_iff]
    rfl
  · have large : ¬factor < scaleLimit := by
      unfold scaleLimit
      omega
    rw [narrow_of_le (by omega), if_neg large, if_neg narrow]
    rfl

end Raster

/-! ## Pictures of the screen -/

namespace Paint

/-- A colour as a host gives it. -/
def ofColour (plain : Colour) : Paint := ⟨plain.red.toNat, plain.green.toNat, plain.blue.toNat⟩

/-- Colours with parts that are bytes are taken as they are. -/
lemma colour_ofColour (plain : Colour) : (ofColour plain).colour = .ok plain := by
  have narrow (byte : UInt8) : Picture.narrow byte.toNat = pure (byte.toNat : Int) :=
    Raster.narrow_of_lt (by have := byte.toNat_lt; omega)
  have fits : SignedWord.fits64 plain.red.toNat = true := by
    have := plain.red.toNat_lt
    unfold SignedWord.fits64
    rw [← Bool.decide_and, decide_eq_true_iff]
    omega
  have part (byte : UInt8) : UInt8.ofNat (min (byte.toNat : Int).toNat 255) = byte := by
    have := byte.toNat_lt
    rw [Int.toNat_natCast, min_eq_left (by omega), UInt8.ofNat_toNat]
  unfold ofColour colour
  dsimp only
  rw [if_pos fits, narrow, narrow]
  show Except.ok (Colour.ofParts _ _ _) = _
  unfold Colour.ofParts
  dsimp only
  rw [part, part, part]

end Paint

namespace Screen

variable {screen : Screen}

/-- The picture of a screen in two colours, every pixel a square. -/
def image (screen : Screen) (scale : Nat) (on off : Colour) : Raster :=
  (Raster.ofLines 64 (screen.rows.map fun row => row.map fun lit => if lit then on else off)).enlarge
    scale

lemma length_rows (screen : Screen) : screen.rows.length = 32 := by
  rw [rows, List.length_map, List.length_finRange]

lemma rows_getElem? (screen : Screen) (column : Fin 64) (row : Fin 32) :
    screen.rows[row.val]?.bind (·[column.val]?) = some (screen.isLit column row) := by
  rw [rows, List.getElem?_map, List.getElem?_eq_getElem (by simp), Option.map_some, Option.bind_some,
    List.getElem?_map, List.getElem?_eq_getElem (by simp), Option.map_some]
  simp

lemma picture_eq {on off : Paint} {lit dark : Colour} (on_eq : on.colour = .ok lit)
    (off_eq : off.colour = .ok dark) (scale : Nat) :
    screen.picture scale on off =
      if scale < Raster.scaleLimit then .ok (screen.image scale lit dark)
      else if 64 * scale < 0x80000000 then .error .pictureTooLarge
      else .error (.wideNumber (64 * scale : Nat)) := by
  have accepted : on.colour = pure lit := on_eq
  have accepted' : off.colour = pure dark := off_eq
  rw [picture, accepted', pure_bind, accepted, pure_bind]
  refine Raster.enlarge?_eq rfl ?_ scale
  rw [Raster.height_ofLines, List.length_map, length_rows]

/-- A picture of the screen at a scale, given by its size and its pixels. -/
structure IsPicture (screen : Screen) (scale : Nat) (on off : Colour) (width height : Nat)
    (pixel? : Nat → Nat → Option Colour) : Prop where
  width : width = 64 * scale
  height : height = 32 * scale
  pixel {column line : Nat} (left : column < 64 * scale) (above : line < 32 * scale) :
    ∃ lit, screen.pixel (column / scale : Nat) (line / scale : Nat) = .ok lit ∧
      pixel? column line = some (if lit then on else off)

lemma pixel_eq (screen : Screen) (column : Fin 64) (row : Fin 32) :
    screen.pixel column row = .ok (screen.isLit column row) := by
  unfold pixel
  rw [dif_pos (by omega)]
  simp only [Int.toNat_natCast]

lemma isPicture_image (screen : Screen) {scale : Nat} (positive : 0 < scale) (on off : Colour) :
    screen.IsPicture scale on off (screen.image scale on off).width
      (screen.image scale on off).height (screen.image scale on off).pixel? where
  width := rfl
  height := by
    rw [image, Raster.height_enlarge, Raster.height_ofLines, List.length_map, length_rows]
  pixel {column line} left above := by
    have inside : column / scale < 64 := Nat.div_lt_of_lt_mul (by omega)
    have below : line / scale < 32 := Nat.div_lt_of_lt_mul (by omega)
    refine ⟨_, screen.pixel_eq ⟨column / scale, inside⟩ ⟨line / scale, below⟩, ?_⟩
    have found := screen.rows_getElem? ⟨column / scale, inside⟩ ⟨line / scale, below⟩
    obtain ⟨row, row_eq, lit_eq⟩ := Option.bind_eq_some_iff.1 found
    rw [image, Raster.pixel?_enlarge positive, Raster.pixel?_ofLines, List.getElem?_map, row_eq,
      Option.map_some, Option.bind_some, List.getElem?_map, lit_eq, Option.map_some]

end Screen

end Chip8
