/-!
# Sides and directions

A connection has two sides, and each side reads in one direction and writes
in the other.
-/

namespace RecordLayer

/-- One side of a connection. -/
inductive Side where
  | client
  | server
deriving DecidableEq, Repr

/-- The other side. -/
def Side.peer : Side → Side
  | .client => .server
  | .server => .client

@[simp] theorem Side.peer_peer (side : Side) : side.peer.peer = side := by
  cases side <;> rfl

theorem Side.peer_ne (side : Side) : side.peer ≠ side := by
  cases side <;> rintro ⟨⟩

theorem Side.eq_or_eq_peer (side other : Side) : side = other ∨ side = other.peer := by
  cases side <;> cases other <;> simp [Side.peer]

/-- A direction as one side sees it. -/
inductive Direction where
  | read
  | write
deriving DecidableEq, Repr

/-- The name of a direction in debug lines. -/
def Direction.name : Direction → String
  | .read => "Read"
  | .write => "Write"

/-- The side that sends in a direction, as seen by `side`. -/
def Direction.sender (direction : Direction) (side : Side) : Side :=
  match direction with
  | .read => side.peer
  | .write => side

end RecordLayer
