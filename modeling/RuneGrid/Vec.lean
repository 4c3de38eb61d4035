/-!
# Positions and directions

Positions and velocities are integer vectors on the page: `x` grows to the right, `y` downwards.
-/

namespace RuneGrid

/-- A position, a velocity or a shift. -/
@[ext]
structure Vec where
  x : Int
  y : Int
deriving DecidableEq, Inhabited

namespace Vec

def zero : Vec := ⟨0, 0⟩
def east : Vec := ⟨1, 0⟩
def west : Vec := ⟨-1, 0⟩
def south : Vec := ⟨0, 1⟩
def north : Vec := ⟨0, -1⟩

instance : Add Vec := ⟨fun a b => ⟨a.x + b.x, a.y + b.y⟩⟩
instance : Sub Vec := ⟨fun a b => ⟨a.x - b.x, a.y - b.y⟩⟩
instance : Neg Vec := ⟨fun a => ⟨-a.x, -a.y⟩⟩

@[simp] theorem add_x (a b : Vec) : (a + b).x = a.x + b.x := rfl
@[simp] theorem add_y (a b : Vec) : (a + b).y = a.y + b.y := rfl
@[simp] theorem sub_x (a b : Vec) : (a - b).x = a.x - b.x := rfl
@[simp] theorem sub_y (a b : Vec) : (a - b).y = a.y - b.y := rfl
@[simp] theorem neg_x (a : Vec) : (-a).x = -a.x := rfl
@[simp] theorem neg_y (a : Vec) : (-a).y = -a.y := rfl

end Vec

/-- A change of direction. -/
inductive Turn
  | plus90
  | minus90
  | half
  | clockwise
deriving DecidableEq

/-- The velocity after a turn. Both of the quarter turns `plus90` and `minus90` swap the components;
only `clockwise` turns clockwise on the page. -/
def Turn.apply : Turn → Vec → Vec
  | .plus90, v | .minus90, v => ⟨v.y, v.x⟩
  | .half, v => -v
  | .clockwise, v => ⟨-v.y, v.x⟩

end RuneGrid
