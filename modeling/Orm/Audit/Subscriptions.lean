/-!
# Subscriptions

Subscribers get numbers in ascending order, which are never given twice, and are told of something
in the order of their numbers.
-/

namespace Orm

/-- Subscribers with what is known of each. -/
structure Subscriptions (α : Type) where
  next : Nat
  entries : List (Nat × α)
deriving DecidableEq, Inhabited

namespace Subscriptions

variable {α : Type}

/-- No subscribers. -/
def empty : Subscriptions α := ⟨0, []⟩

/-- Adds a subscriber, who gets the next number. -/
def subscribe (subscriptions : Subscriptions α) (subscriber : α) : Nat × Subscriptions α :=
  (subscriptions.next,
    ⟨subscriptions.next + 1, subscriptions.entries ++ [(subscriptions.next, subscriber)]⟩)

/-- Whether a number belongs to a subscriber. -/
def contains (subscriptions : Subscriptions α) (number : Nat) : Bool :=
  subscriptions.entries.any fun entry => entry.1 = number

/-- Removes the subscriber with a number; the result also tells whether there was one. -/
def unsubscribe (subscriptions : Subscriptions α) (number : Nat) : Bool × Subscriptions α :=
  (subscriptions.contains number,
    { subscriptions with
      entries := subscriptions.entries.filter fun entry => entry.1 ≠ number })

/-- The number of subscribers. -/
def size (subscriptions : Subscriptions α) : Nat := subscriptions.entries.length

end Subscriptions

/-- How long a subscriber to commands stays: until it leaves or only for one command. -/
inductive ListenerKind
  | steady
  | once
deriving DecidableEq, Repr, Inhabited

/-- The subscribers to the commands of a context. -/
abbrev EventRegistry := Subscriptions ListenerKind

namespace EventRegistry

/-- The numbers of the subscribers that are told of a command, in order. -/
def receivers (registry : EventRegistry) : List Nat := registry.entries.map Prod.fst

/-- The subscribers that remain after a command was told to all. -/
def afterPublish (registry : EventRegistry) : EventRegistry :=
  { registry with entries := registry.entries.filter fun entry => entry.2 ≠ .once }

/-- The registry in diagnostics. -/
def debugText (registry : EventRegistry) : String :=
  "EventRegistry \x7b observers: " ++ toString registry.size ++ " \x7d"

end EventRegistry

end Orm
