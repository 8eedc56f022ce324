import SecureStartup.Yaml.Node

/-!
  Which places of a value hold one and the same thing.

  A document may name a node and then have it in several places.  When its value is written, a thing
  that stands in several places is written once, with a name (`&id001`); elsewhere only its name is
  written (`*id001`).  A `Sharing` has the shape of a value and says for each place which thing is
  there, if it is one that can be told apart from its equals; texts and numbers, for instance, cannot.
-/

namespace SecureStartup.Yaml

/-- A thing: what a node stands for, or the tuple that an item of a node became. -/
structure Thing where
  node : NodeId
  item : Option Nat := none
  deriving DecidableEq, Repr

/-- The things in the places of a value.  The parts of a mapping are its keys and values in turn. -/
inductive Sharing where
  | place (thing : Option Thing) (parts : List Sharing)
  deriving Inhabited

namespace Sharing

/-- A place that holds nothing of note. -/
def plain : Sharing := .place none []

/-- The thing in a place. -/
def thing? : Sharing → Option Thing
  | .place t _ => t

/-- The parts of a place. -/
def parts : Sharing → List Sharing
  | .place _ ps => ps

/-- The first of some places; there is nothing of note beyond their end. -/
def first (ss : List Sharing) : Sharing := ss.headD plain

/-- The things met in going through a value, and those of them that were met again, in that order. -/
structure Tally where
  met : List Thing := []
  again : List Thing := []

/-- A thing is met: whether for the first time. -/
def Tally.meet (t : Tally) (x : Thing) : Bool × Tally :=
  if !t.met.contains x then (true, { t with met := x :: t.met })
  else (false, if t.again.contains x then t else { t with again := t.again ++ [x] })

mutual

/-- Go through a place; what is in a thing is gone through once. -/
def tally : Sharing → Tally → Tally
  | .place none ps, t => tallyAll ps t
  | .place (some x) ps, t =>
    match t.meet x with
    | (true, t) => tallyAll ps t
    | (false, t) => t

/-- Go through places in turn. -/
def tallyAll : List Sharing → Tally → Tally
  | [], t => t
  | s :: ss, t => tallyAll ss (s.tally t)

end

/-- The things that stand in several places, in the order of their second places. -/
def shared (s : Sharing) : List Thing := (s.tally {}).again

end Sharing

end SecureStartup.Yaml
