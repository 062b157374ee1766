import Chip8.Proofs.NearDialogues
import Chip8.Proofs.Raw.Drawing

/-!
# The edge policy

Sprites wrap around the edges of the screen or are cut off there. This makes no difference to a sprite
none of whose set bits lands past an edge (`draw_eq`), whatever blank rows and columns it has besides.
So it makes none to a session either, as long as it draws no other sprites: in every dialogue a host is
told the same under both policies, and all else about the session is the same as well (`edge_policy`).
-/

namespace Chip8

/-! ## Sprites inside the screen -/

namespace Sprite

/-- No set bit of a sprite lands past the right or the bottom edge of the screen. Rows and columns are
counted from the origin, which is taken modulo the size of the screen. -/
def StaysInside (x y : Int) (rows : List Int) : Prop :=
  ∀ bits row, (bits, row) ∈ rows.zipIdx → ∀ column ∈ setColumns bits,
    x % 64 + column ≤ 63 ∧ y % 32 + row ≤ 31

instance (x y : Int) (rows : List Int) : Decidable (StaysInside x y rows) :=
  decidable_of_iff
    (∀ entry ∈ rows.zipIdx, ∀ column ∈ setColumns entry.1,
      x % 64 + column ≤ 63 ∧ y % 32 + entry.2 ≤ 31)
    ⟨fun all bits row member => all (bits, row) member, fun all _ member => all _ _ member⟩

variable {x y : Int} {rows : List Int}

/-- The set bits land on the same pixels under every policy. -/
lemma landings_eq (inside : StaysInside x y rows) (wrap wrap' : Bool) :
    landings wrap x y rows = landings wrap' x y rows := by
  unfold landings
  refine List.flatMap_congr fun entry member => List.filterMap_congr fun column set => ?_
  obtain ⟨left, above⟩ := inside entry.1 entry.2 member column set
  rw [Raw.landing?_inside wrap (by omega) (by omega), Raw.landing?_inside wrap' (by omega) (by omega)]

end Sprite

/-- A sprite that stays inside is drawn alike under every policy. -/
theorem Screen.draw_eq {x y : Int} {rows : List Int} (inside : Sprite.StaysInside x y rows)
    (screen : Screen) (wrap wrap' : Bool) :
    screen.draw x y rows wrap = screen.draw x y rows wrap' := by
  unfold draw
  rw [Sprite.landings_eq inside wrap wrap']

/-- One side is under a policy, the other side under any. -/
def Leeway.policed (spritesWrap : Bool) : Leeway where
  policy _ wrap := wrap = spritesWrap

lemma Leeway.isKept_policed (spritesWrap : Bool) : (Leeway.policed spritesWrap).IsKept where
  stack := CallStack.isKept_eq
  memory := Memory.isKept_eq
  source := RandomSource.isKept_eq

namespace Machine

/-- If an operation draws a sprite, the sprite stays inside the screen. -/
def DrawsInside (machine : Machine) (operation : Operation) : Prop :=
  ∀ x y sprite, machine.drawn? operation = some (x, y, sprite) →
    Sprite.StaysInside x.toNat y.toNat (sprite.map fun byte => (byte.toNat : Int))

instance (machine : Machine) (operation : Operation) : Decidable (machine.DrawsInside operation) :=
  decidable_of_iff
    (∀ drawn ∈ machine.drawn? operation, Sprite.StaysInside drawn.1.toNat drawn.2.1.toNat
      (drawn.2.2.map fun byte => (byte.toNat : Int)))
    ⟨fun all x y sprite drawn => all (x, y, sprite) drawn, fun all _ drawn => all _ _ _ drawn⟩

lemma DrawsInside.settles {spritesWrap : Bool} {machine : Machine} {operation : Operation}
    (inside : machine.DrawsInside operation) :
    machine.Settles (.policed spritesWrap) operation where
  drawing x y sprite wrap drawn _ :=
    Screen.draw_eq (inside x y sprite drawn) machine.screen wrap machine.spritesWrap
  byte := by
    rintro x mask _ _ rfl
    rfl

end Machine

/-! ## Sessions -/

namespace Session

/-- The session under a policy. -/
def withPolicy (session : Session) (spritesWrap : Bool) : Session :=
  session.mapMachine ({ · with spritesWrap })

/-- Sessions that differ in their policies at most are the same under one policy. -/
lemma eq_withPolicy {spritesWrap : Bool} {left right : Session}
    (near : Near (.policed spritesWrap) True left right) : right = left.withPolicy spritesWrap :=
  near.eq_mapMachine (near.machine.eq_of_parts rfl near.machine.stack near.machine.memory
    near.machine.random near.machine.spritesWrap.symm)

lemma near_withPolicy (session : Session) (spritesWrap : Bool) :
    Near (.policed spritesWrap) True session (session.withPolicy spritesWrap) :=
  ⟨rfl, rfl, ⟨rfl, rfl, rfl, rfl, rfl⟩, ⟨rfl, rfl, rfl, fun _ => rfl⟩, rfl, rfl⟩

/-- The policy only goes into the machine. -/
lemma start_withPolicy (settings : Settings) (random : RandomSource)
    (image : Except Error (List UInt8)) (spritesWrap : Bool) :
    start { settings with spritesWrap } random image =
      (start settings random image).map (·.withPolicy spritesWrap) := by
  unfold start
  dsimp only
  split
  · rfl
  · split <;> rfl

/-- The edge policy matters only at the edges. A session is started in the same way under every policy.
Whatever a host asks of a session then or later, it is told the same under another policy, and finds the
session in the same state but for that policy after every request, as long as the sprites that the program
draws stay inside the screen with all bits that are set. -/
theorem edge_policy (settings : Settings) (random : RandomSource)
    (image : Except Error (List UInt8)) (spritesWrap : Bool) :
    start { settings with spritesWrap } random image =
      (start settings random image).map (·.withPolicy spritesWrap) ∧
    ∀ (session : Session) (requests : List Request),
      session.machine.Throughout Machine.DrawsInside
        (chronicle session (requests.flatMap Request.operations)) →
      dialogue (session.withPolicy spritesWrap) requests = dialogue session requests ∧
      ∀ earlier, earlier <+: requests →
        (session.withPolicy spritesWrap).serveAll earlier =
          (session.serveAll earlier).withPolicy spritesWrap := by
  refine ⟨start_withPolicy settings random image spritesWrap, fun session requests inside => ?_⟩
  have near := near_withPolicy session spritesWrap
  have live {stack stack' : CallStack} (same : stack = stack') : stack'.live = stack.live := by
    rw [same]
  have along {requests : List Request}
      (inside : session.machine.Throughout Machine.DrawsInside
        (chronicle session (requests.flatMap Request.operations))) :=
    near_dialogue (Leeway.isKept_policed spritesWrap) Eq.symm live near requests
      (inside.mono fun _ _ => Machine.DrawsInside.settles)
  refine ⟨(along inside).1, fun earlier before => ?_⟩
  -- What holds throughout all requests holds throughout the first of them.
  obtain ⟨later, rfl⟩ := before
  rw [List.flatMap_append] at inside
  exact eq_withPolicy (along (throughout_chronicle_append.1 inside).1).2

/-- A program that draws a sprite in the lower right corner. Four columns and one row of it lie past the
edges, and are blank. -/
def cornerRom : Rom where
  bytes := [0xA2, 0x0A, 0x60, 0x3C, 0x61, 0x1F, 0xD0, 0x12, 0x12, 0x08, 0xF0, 0x00]
  fits := by decide

-- Irreducible, or comparing two statements about it would run the program.
/-- A session that is about to draw the sprite. -/
@[irreducible] def atCorner : Session :=
  (powerOn cornerRom 1 Nat.one_pos (.ofStream fun count => count) false).operateAll [.run 3 false]

/-- The sprite is drawn alike under both policies: four pixels are lit, and none at the opposite
edges. -/
theorem edge_policy_at_corner :
    let requests : List Request := [.operate (.cycle none), .look .litCount, .look (.pixel 0 31)]
    atCorner.machine.drawn? .step = some (60, 31, [0xF0, 0x00]) ∧
      dialogue atCorner requests =
        [.ok (.reply (.truth true)), .ok (.finding (.count 4)), .ok (.finding (.truth false))] ∧
      dialogue (atCorner.withPolicy true) requests = dialogue atCorner requests ∧
      (atCorner.withPolicy true).serveAll requests = (atCorner.serveAll requests).withPolicy true := by
  intro requests
  have inside : atCorner.machine.Throughout Machine.DrawsInside
      (chronicle atCorner (requests.flatMap Request.operations)) := by decide +kernel
  obtain ⟨-, alike⟩ := edge_policy {} (.ofStream fun count => count) (.ok cornerRom.bytes) true
  obtain ⟨told, after⟩ := alike atCorner requests inside
  exact ⟨by decide +kernel, by decide +kernel, told, after requests (List.prefix_refl _)⟩

end Session

end Chip8
