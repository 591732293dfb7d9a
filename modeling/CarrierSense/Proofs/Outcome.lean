import CarrierSense.Network.Basic
import Mathlib.Tactic.Common

/-!
# Outcomes of operations

What it means that an operation on a network came to an end: inversion lemmas for the two ways in which
operations are put together, after a halt-free computation (`>>=`) and after an answer (`andThen`).
-/

namespace CarrierSense

/-- A sequence of two computations has a value exactly if both have. -/
lemma bind_eq_ok {ε α β : Type} {x : Except ε α} {f : α → Except ε β} {b : β} :
    (x >>= f) = .ok b ↔ ∃ a, x = .ok a ∧ f a = .ok b := by
  cases x with
  | error e => simp [bind, Except.bind]
  | ok a => simp [bind, Except.bind]

/-- A computation with a value goes on with it. -/
@[simp] lemma ok_bind {ε α β : Type} (a : α) (f : α → Except ε β) :
    ((Except.ok a : Except ε α) >>= f) = f a := rfl

/-- To return a value is to end with it. -/
@[simp] lemma pure_eq_ok {ε α : Type} (a : α) : (pure a : Except ε α) = .ok a := rfl

/-- What follows an answer ends with a reply if the first operation met an error, or both ended. -/
lemma andThen_eq_ok {α β : Type} {reply : Except Halt (Reply α)}
    {next : α → Network → Except Halt (Reply β)} {result : Except NetworkError β} {net : Network} :
    andThen reply next = .ok (result, net) ↔
      (∃ e, reply = .ok (.error e, net) ∧ result = .error e) ∨
        ∃ a mid, reply = .ok (.ok a, mid) ∧ next a mid = .ok (result, net) := by
  match reply with
  | .error halt => simp [andThen]
  | .ok (.error e, mid) =>
    constructor
    · intro h
      cases h
      exact .inl ⟨e, rfl, rfl⟩
    · rintro (⟨_, h, rfl⟩ | ⟨_, _, h, _⟩)
      · cases h
        rfl
      · cases h
  | .ok (.ok a, mid) =>
    constructor
    · intro h
      exact .inr ⟨a, mid, rfl, h⟩
    · rintro (⟨_, h, _⟩ | ⟨_, _, h, hn⟩)
      · cases h
      · cases h
        exact hn

end CarrierSense
