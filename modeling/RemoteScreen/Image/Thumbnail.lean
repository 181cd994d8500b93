import RemoteScreen.Failure

/-! Thumbnails: the size of an image once it is scaled down to fit a square. -/
namespace RemoteScreen
namespace Image

structure Size where
  width : Nat
  height : Nat
  deriving DecidableEq, Repr

/-- The side of the square that card images fit in. -/
def cardSide : Nat := 200

def toNat (x : Float) : Nat := x.toUInt64.toNat

/-- Of the whole numbers around `x` the one of smaller `cost`, the lower one of two equals; at least
one. -/
def roundBy (cost : Float → Float) (x : Float) : Nat :=
  let low := x.floor
  let high := x.ceil
  max 1 (toNat (if cost high < cost low then high else low))

/-- The longer side becomes that of the square, and the other is rounded so that the shape changes
least. An image that fits stays as it is. -/
def Size.fit (side : Nat) (size : Size) : Size :=
  if size.width ≤ side ∧ size.height ≤ side then size
  else
    let s := side.toFloat
    let aspect := size.width.toFloat / size.height.toFloat
    if aspect ≤ 1.0 then ⟨roundBy (fun x => (aspect - x / s).abs) (s * aspect), side⟩
    else ⟨side, roundBy (fun y => if y == 0.0 then 0.0 else (aspect - s / y).abs) (s / aspect)⟩

/-- Nothing fits a square without room. -/
def Size.fitted (side : Int) (size : Size) : Except Failure Size :=
  if side = 0 then .error (.outside "ZeroDivisionError" "division by zero")
  else if side < 0 then .error (.outside "ValueError" "height and width must be > 0")
  else .ok (size.fit side.toNat)

end Image
end RemoteScreen
