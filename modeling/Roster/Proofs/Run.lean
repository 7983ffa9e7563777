import Roster.Identity.Random
import Roster.Request

/-!
Runs of a registry: operations or requests that are performed one after the other, each at an
instant of its own.
-/

namespace Roster

namespace Registry

variable {σ τ : Type} [Registry σ] [Registry τ]

/-- The registry after the given operations. -/
def after (steps : List (Instant × Operation)) (registry : σ) : σ :=
  steps.foldl (fun registry step => (perform step.1 step.2 registry).2) registry

/-- The operations among the given ones that succeed. -/
def accepted : List (Instant × Operation) → σ → List (Instant × Operation)
  | [], _ => []
  | step :: rest, registry =>
    let (outcome, later) := perform step.1 step.2 registry
    if outcome.isOk then step :: accepted rest later else accepted rest later

/-- The answers of the given operations. -/
def answers : List (Instant × Operation) → σ → List (Except Failure Answer)
  | [], _ => []
  | step :: rest, registry =>
    let (answer, later) := perform step.1 step.2 registry
    answer :: answers rest later

/-- What every operation of a kind carries over from one registry to another holds after a run of
such operations on both. -/
theorem after_related (Related : σ → τ → Prop) (Fits : Operation → Prop)
    (step : ∀ now operation first second, Fits operation → Related first second →
      Related (perform now operation first).2 (perform now operation second).2)
    (steps : List (Instant × Operation)) (fits : ∀ step ∈ steps, Fits step.2)
    (first : σ) (second : τ) (related : Related first second) :
    Related (after steps first) (after steps second) := by
  induction steps generalizing first second with
  | nil => exact related
  | cons head rest ih =>
    apply ih (fun later member => fits later (List.mem_cons_of_mem _ member))
    exact step _ _ _ _ (fits head List.mem_cons_self) related

/-- What every operation of a kind keeps holds after a run of such operations. -/
theorem after_keeps (Kept : σ → Prop) (Fits : Operation → Prop)
    (step : ∀ now operation registry, Fits operation → Kept registry →
      Kept (perform now operation registry).2)
    (steps : List (Instant × Operation)) (fits : ∀ step ∈ steps, Fits step.2)
    (registry : σ) (kept : Kept registry) : Kept (after steps registry) :=
  after_related (fun first (_ : σ) => Kept first) Fits
    (fun now operation first _ fitting kept => step now operation first fitting kept)
    steps fits registry registry kept

end Registry

theorem serve_of_invalid {σ : Type} [Registry σ] {now : Instant} {fresh : ClusterUid}
    {request : Request} {reason : Invalid} (checked : request.check fresh = .error reason)
    (registry : σ) : serve now fresh request registry = (.error (.invalid reason), registry) := by
  rw [serve, checked]

theorem serve_of_check {σ : Type} [Registry σ] {now : Instant} {fresh : ClusterUid}
    {request : Request} {operation : Operation} (checked : request.check fresh = .ok operation)
    (registry : σ) :
    serve now fresh request registry =
      (((Registry.perform now operation registry).1.map operation.receipt).mapError .failed,
        (Registry.perform now operation registry).2) := by
  unfold serve
  simp only [checked]
  rcases Registry.perform now operation registry with ⟨failure | answer, later⟩ <;> rfl

/-- A request, the instant at which it is served, and the digits that are drawn for a uid in case
that it needs one. -/
structure Call where
  now : Instant
  nibbles : Fin 32 → Fin 16
  request : Request

namespace Call

/-- The call passes the checks, and this is the operation that it asks for. -/
def Asks (call : Call) (operation : Operation) : Prop :=
  call.request.check (.ofNibbles call.nibbles) = .ok operation

variable {σ τ : Type} [Registry σ] [Registry τ]

def serve (call : Call) (registry : σ) : Except Denial Answer × σ :=
  Roster.serve call.now (.ofNibbles call.nibbles) call.request registry

/-- The registry after the given calls. -/
def afterAll (calls : List Call) (registry : σ) : σ :=
  calls.foldl (fun registry call => (call.serve registry).2) registry

theorem serve_of_asks {call : Call} {operation : Operation} (asks : call.Asks operation)
    (registry : σ) :
    call.serve registry =
      (((Registry.perform call.now operation registry).1.map operation.receipt).mapError .failed,
        (Registry.perform call.now operation registry).2) :=
  serve_of_check asks registry

theorem afterAll_related (Related : σ → τ → Prop) (Kind : Call → Prop)
    (step : ∀ call first second, Kind call → Related first second →
      Related (serve call first).2 (serve call second).2)
    (calls : List Call) (kind : ∀ call ∈ calls, Kind call) (first : σ) (second : τ)
    (related : Related first second) : Related (afterAll calls first) (afterAll calls second) := by
  induction calls generalizing first second with
  | nil => exact related
  | cons call rest ih =>
    apply ih (fun later member => kind later (List.mem_cons_of_mem _ member))
    exact step call first second (kind call List.mem_cons_self) related

end Call

end Roster
