import Mathlib.Logic.Basic

/-!
# Calls of the cluster

The result type of `platform-console/app/lib/k8s.ts`. A ConfigMap is modelled by
the data that its users keep in it. What an awaited call answers is an argument of
the model, since the cluster may fail at every call and its state may change at
every `await`.
-/

namespace ChatmanEcosystem.Console

/-- `K8sResult<T>` (`lib/k8s.ts`, lines 29–31). -/
abbrev K8sResult (α : Type) := Except String α

end ChatmanEcosystem.Console
