import ScenarioResults.Backend

/-!
# Fetches on the spot

Around any backend: every fetch is carried out when it is started, and cancelling one does nothing.
-/

namespace ScenarioResults

structure Prompt (σ : Type) where
  inner : σ

namespace Prompt

variable {σ : Type}

def lift {α : Type} (call : Call σ α) : Call (Prompt σ) α := fun state =>
  let (answer, inner) := call state.inner
  (answer, ⟨inner⟩)

instance [Backend σ] : Backend (Prompt σ) where
  options scenario := lift (Backend.options scenario)
  table scenario key := lift (Backend.table scenario key)
  plot scenario key arguments := lift (Backend.plot scenario key arguments)

end Prompt

end ScenarioResults
