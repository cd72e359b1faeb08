import ScenarioResults.Backend

/-!
# Fetches beside the page

Around any backend: a fetch that is started goes on beside the page, and its event comes while the
page waits. A fetch cannot be cancelled.
-/

namespace ScenarioResults

structure InFlight (σ : Type) where
  inner : σ
  requests : List FetchRequest := []

namespace InFlight

variable {σ : Type}

def lift {α : Type} (call : Call σ α) : Call (InFlight σ) α := fun state =>
  let (answer, inner) := call state.inner
  (answer, { state with inner })

instance [Backend σ] : Backend (InFlight σ) where
  options scenario := lift (Backend.options scenario)
  table scenario key := lift (Backend.table scenario key)
  plot scenario key arguments := lift (Backend.plot scenario key arguments)
  spawn request state := (.ok [], { state with requests := state.requests ++ [request] })
  arrivals state :=
    let (events, inner) := Backend.executeAll state.requests state.inner
    (events, ⟨inner, []⟩)

end InFlight

end ScenarioResults
