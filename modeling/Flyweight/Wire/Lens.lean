import Flyweight.Wire.Region

/- Parts of a state.

   A part is found in a state and can be put back into it. What is put back need not
   be all of what was found: a flyweight that is made for one access gives back the
   memory that it looked at and is then forgotten. -/

namespace Flyweight.Wire

/-- A part of a state: how it is found, and how it is put back. -/
structure Lens (σ τ : Type) where
  get : σ → τ
  put : τ → σ → σ

namespace Lens

/-- A part of each of two states. -/
def prod (left : Lens σ τ) (right : Lens σ' τ') : Lens (σ × σ') (τ × τ') where
  get s := (left.get s.1, right.get s.2)
  put t s := (left.put t.1 s.1, right.put t.2 s.2)

/-- The first of two states. -/
def first (σ τ : Type) : Lens (σ × τ) σ where
  get s := s.1
  put t s := (t, s.2)

/-- The items of a list from `start` on, `count` in number. -/
def region (start count : Nat) : Lens (List α) (List α) where
  get items := Region.read items start count
  put new items := Region.write items start new

end Lens

end Flyweight.Wire
