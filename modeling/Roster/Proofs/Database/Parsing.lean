import Roster.Database.Store
import Roster.Proofs.Outcome

/-!
What may go wrong when records are made of what was selected. It is the stored data that is not
valid then, and no statement has failed.
-/

namespace Roster.Database

variable {α β : Type}

/-- A computation that fails only because of stored data. -/
def Parses (result : Except Failure α) : Prop :=
  ∀ failure, result = .error failure → ∃ defect, failure = .corrupt defect

theorem parses_ok (a : α) : Parses (.ok a) :=
  nofun

theorem Parses.bind {first : Except Failure α} {next : α → Except Failure β}
    (parses : Parses first) (later : ∀ a, Parses (next a)) : Parses (first >>= next) := by
  intro failure failed
  rcases of_bind_eq_error failed with here | ⟨a, _, there⟩
  · exact parses failure here
  · exact later a failure there

theorem parses_mapM {items : List α} {check : α → Except Failure β}
    (parses : ∀ item, Parses (check item)) : Parses (items.mapM check) := by
  intro failure failed
  obtain ⟨item, _, found⟩ := of_mapM_eq_error failed
  exact parses item failure found

theorem parses_corrupt (result : Except Invalid α) : Parses (corrupt result) := by
  intro failure failed
  cases result with
  | ok a => cases failed
  | error reason => cases failed; exact ⟨_, rfl⟩

theorem parses_parseMembers (spiffeids : List String) : Parses (parseMembers spiffeids) :=
  parses_mapM fun _ => parses_corrupt _

theorem parses_toCluster (row : ClusterRow) (members : List AgentId) :
    Parses (row.toCluster members) :=
  (parses_corrupt _).bind fun _ => (parses_corrupt _).bind fun _ => parses_ok _

namespace Store

theorem parses_readAttestation (agent : AgentId) (plugin selectors : String) :
    Parses (readAttestation agent plugin selectors) := by
  intro failure failed
  unfold readAttestation at failed
  split at failed
  next => cases failed; exact ⟨_, rfl⟩
  next => exact parses_corrupt _ failure failed

theorem parses_assemble (rows : List ClusterRow) (members : List (Nat × String)) :
    Parses (assemble rows members) :=
  (parses_mapM fun _ => (parses_corrupt _).bind fun _ => parses_ok _).bind fun _ =>
    parses_mapM fun _ => parses_toCluster _ _

theorem parses_agents (rows : List (String × Option String)) :
    Parses (rows.mapM fun (spiffeid, plugin) => do
      return ({ id := ← corrupt (AgentId.parse spiffeid), plugin } : Agent)) :=
  parses_mapM fun _ => (parses_corrupt _).bind fun _ => parses_ok _

theorem parses_describe (spiffeid : String) (plugin cluster : Option String) :
    Parses (describe spiffeid plugin cluster) := by
  cases cluster with
  | none => exact (parses_ok _).bind fun _ => (parses_corrupt _).bind fun _ => parses_ok _
  | some name =>
    exact ((parses_corrupt _).bind fun _ => parses_ok _).bind fun _ =>
      (parses_corrupt _).bind fun _ => parses_ok _

end Store

end Roster.Database
