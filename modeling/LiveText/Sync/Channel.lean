/-!
# Channels

Those who show a text are told on a channel when its identifiers were replaced. A channel calls its
subscribers in the order of their subscriptions. A subscriber may subscribe again, be called once
for each subscription, and leave; leaving ends the first of its subscriptions that is left.

A subscriber may also change the channel while it is called, and it may fail. So what a subscriber
does is a function from the channel to the channel and to whether it succeeded; `Channel.publish`
calls those who were subscribed when it began, whatever they do. Where more can change than the
channel, a state stands in its place (`Channel.publishIn`).
-/

set_option autoImplicit false

namespace LiveText

/-- The subscribers, in the order of their subscriptions. -/
structure Channel (α : Type) where
  subscribers : List α := []
  deriving DecidableEq, Repr

namespace Channel

variable {α : Type}

/-- Adds a subscription. -/
def subscribe (a : α) (c : Channel α) : Channel α := ⟨c.subscribers ++ [a]⟩

/-- Ends the first subscription of a subscriber, if there is one. -/
def unsubscribe [DecidableEq α] (a : α) (c : Channel α) : Channel α := ⟨c.subscribers.erase a⟩

/-- What a subscriber does when it is called: the channel as it leaves it, and whether it
succeeded. -/
abbrev Response (α : Type) := Channel α → Channel α × Bool

/-- Calls subscribers one after the other, each of which may change a state; gives the state as they
leave it and the number of those that succeeded. -/
def deliver {σ : Type} (respond : α → σ → σ × Bool) : List α → σ → σ × Nat
  | [], s => (s, 0)
  | a :: as, s =>
    let (s, succeeded) := respond a s
    let (s, n) := deliver respond as s
    (s, if succeeded then n + 1 else n)

/-- Calls those who are subscribed now to the channel of a state. -/
def publishIn {σ : Type} (channel : σ → Channel α) (respond : α → σ → σ × Bool) (s : σ) : σ × Nat :=
  deliver respond (channel s).subscribers s

/-- Calls those who are subscribed now. -/
def publish (respond : α → Response α) (c : Channel α) : Channel α × Nat := publishIn id respond c

/-! ## Ways to respond -/

/-- What a subscriber does when it is called. -/
inductive Behaviour
  /-- takes note -/
  | listens
  | fails
  /-- ends its first subscription -/
  | leaves
  /-- subscribes once more -/
  | subscribesAgain
  deriving DecidableEq, Repr

/-- The response of a subscriber that behaves in a certain way. -/
def Behaviour.respond [DecidableEq α] (a : α) : Behaviour → Response α
  | listens, c => (c, true)
  | fails, c => (c, false)
  | leaves, c => (c.unsubscribe a, true)
  | subscribesAgain, c => (c.subscribe a, true)

end Channel
end LiveText
