import ScenarioResults.Text.Digits
import ScenarioResults.View

/-!
# The selection channel

The channel holds the view on show and tells its subscribers, at once and in the order they came,
each time it is written, also when the value stays the same. A new subscriber is told the current
value. What was told to whom is kept as a log.
-/

namespace ScenarioResults

structure SubscriptionId where
  number : Nat
  deriving DecidableEq, Repr

structure Notice where
  subscriber : SubscriptionId
  value : Option ViewKey
  deriving DecidableEq, Repr

structure Selection where
  current : Option ViewKey := none
  subscribers : List SubscriptionId := []
  lastId : Nat := 0
  notices : List Notice := []
  deriving DecidableEq, Repr, Inhabited

namespace Selection

def notify (selection : Selection) : Selection :=
  { selection with
    notices := selection.notices ++ selection.subscribers.map fun id => ⟨id, selection.current⟩ }

def setActive (selection : Selection) (key : ViewKey) : Selection :=
  { selection with current := some key }.notify

def reset (selection : Selection) : Selection := { selection with current := none }.notify

/-- One more subscriber. Ids count up and stop at the greatest 64-bit word. -/
def subscribe (selection : Selection) : SubscriptionId × Selection :=
  let number := min (selection.lastId + 1) Text.maxWord
  let id : SubscriptionId := ⟨number⟩
  (id, { selection with
    subscribers := selection.subscribers ++ [id]
    lastId := number
    notices := selection.notices ++ [⟨id, selection.current⟩] })

/-- A subscriber taken off. The answer tells whether there was one. -/
def unsubscribe (selection : Selection) (id : SubscriptionId) : Bool × Selection :=
  let kept := selection.subscribers.filter fun existing => existing != id
  (kept.length != selection.subscribers.length, { selection with subscribers := kept })

def summary (selection : Selection) : String :=
  let current := match selection.current with
    | none => "None"
    | some key => "Some(" ++ key.name ++ ")"
  "SelectionChannel \x7b current: " ++ current ++ ", subscribers: "
    ++ toString selection.subscribers.length ++ " \x7d"

end Selection

end ScenarioResults
