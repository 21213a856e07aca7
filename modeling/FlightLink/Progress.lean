/-! What one round of a repeated activity leads to. -/

namespace FlightLink

inductive Progress (σ : Type) (β : Type)
  /-- Another round follows, from this state. -/
  | more (state : σ)
  | done (result : β)
  deriving Repr

end FlightLink
