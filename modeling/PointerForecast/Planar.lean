/-
**Planar vectors.** Positions and their derivatives, with the componentwise operations and the
Euclidean norm.
-/

import PointerForecast.Scalar

namespace PointerForecast

/-- A vector of the plane. -/
@[ext]
structure Planar (α : Type) where
  /-- The horizontal component. -/
  x : α
  /-- The vertical component. -/
  y : α
deriving DecidableEq

namespace Planar

variable {α : Type} [Scalar α]

instance : Zero (Planar α) := ⟨⟨0, 0⟩⟩
instance : Add (Planar α) := ⟨fun v w => ⟨v.x + w.x, v.y + w.y⟩⟩
instance : Sub (Planar α) := ⟨fun v w => ⟨v.x - w.x, v.y - w.y⟩⟩
instance : HMul (Planar α) α (Planar α) := ⟨fun v s => ⟨v.x * s, v.y * s⟩⟩
instance : HDiv (Planar α) α (Planar α) := ⟨fun v s => ⟨v.x / s, v.y / s⟩⟩

@[simp] theorem zero_x : (0 : Planar α).x = 0 := rfl
@[simp] theorem zero_y : (0 : Planar α).y = 0 := rfl
@[simp] theorem add_x (v w : Planar α) : (v + w).x = v.x + w.x := rfl
@[simp] theorem add_y (v w : Planar α) : (v + w).y = v.y + w.y := rfl
@[simp] theorem sub_x (v w : Planar α) : (v - w).x = v.x - w.x := rfl
@[simp] theorem sub_y (v w : Planar α) : (v - w).y = v.y - w.y := rfl
@[simp] theorem scale_x (v : Planar α) (s : α) : (v * s).x = v.x * s := rfl
@[simp] theorem scale_y (v : Planar α) (s : α) : (v * s).y = v.y * s := rfl
@[simp] theorem div_x (v : Planar α) (s : α) : (v / s).x = v.x / s := rfl
@[simp] theorem div_y (v : Planar α) (s : α) : (v / s).y = v.y / s := rfl

/-- The Euclidean length. -/
def norm (v : Planar α) : α := Scalar.sqrt (v.x * v.x + v.y * v.y)

end Planar

end PointerForecast
