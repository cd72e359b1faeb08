import ScenarioResults.Embedder

/-!
# An embedder that records
-/

namespace ScenarioResults

structure Recorder where
  embedded : List PlotResult := []
  fault : Option Fault := none

instance : Embedder Recorder where
  embed plot recorder :=
    match recorder.fault with
    | some fault => (.error fault, recorder)
    | none => (.ok (), { recorder with embedded := recorder.embedded ++ [plot] })

end ScenarioResults
