import PhantasmaPy.Rpc.Network

/-! # Calls for a purpose

A client over a network, some of whose calls are made for something: a transaction to submit, a query to answer.
-/

namespace PhantasmaPy

open Wire

/-- The request calls the method with these arguments. -/
def HttpRequest.Calls (self : HttpRequest) (method : Str) (params : List Json) : Prop :=
  ∃ entries, self.json = .obj entries ∧ entries.lookup (Str.ofString "method") = some (.str method) ∧
    entries.lookup (Str.ofString "params") = some (.arr params)

theorem JsonRpcClient.request_calls (self : JsonRpcClient) (method : Str) (params : List Json) :
    (self.request method params).Calls method params :=
  ⟨_, rfl, rfl, rfl⟩

/-- The network, and which of the requests were made for what, the latest first. -/
structure Caller (ι σ : Type) where
  network : Network σ
  purposes : List (Nat × ι) := []

namespace Caller

variable {ι σ : Type} {rt : RpcRuntime} {asks : ι → Str → List Json → Prop}
variable {serve : σ → HttpRequest → Reply × σ} {c c' : Caller ι σ}

/-- A purpose posts what it asks; everything else that goes on is a step of the network, with the end of the call
    and calls for nothing of the kind among it. -/
inductive Step (rt : RpcRuntime) (asks : ι → Str → List Json → Prop) (serve : σ → HttpRequest → Reply × σ)
    (c : Caller ι σ) : Caller ι σ → Prop
  | call (purpose : ι) {method : Str} {params : List Json} : c.network.pending = none → asks purpose method params →
      Step rt asks serve c {
        network := { c.network with
          posted := c.network.posted ++ [c.network.client.request method params]
          pending := some (method, params) }
        purposes := (c.network.posted.length, purpose) :: c.purposes }
  | network {network' : Network σ} : Network.Step rt serve c.network network' →
      Step rt asks serve c { c with network := network' }

def Reachable (rt : RpcRuntime) (asks : ι → Str → List Json → Prop) (serve : σ → HttpRequest → Reply × σ)
    (client : JsonRpcClient) (node : σ) : Caller ι σ → Prop :=
  Relation.ReflTransGen (Step rt asks serve) { network := { client, node } }

theorem Step.network_step (step : Step rt asks serve c c') : Network.Step rt serve c.network c'.network := by
  cases step with
  | @call purpose method params idle _ => exact .post method params idle
  | network step => exact step

theorem Reachable.network_reachable {client : JsonRpcClient} {node : σ}
    (reachable : Reachable rt asks serve client node c) : Network.Reachable rt serve client node c.network := by
  induction reachable with
  | refl => exact .refl
  | tail _ step ih => exact ih.tail step.network_step

/-- Requests stay posted. -/
theorem posted_kept {s s' : Network σ} (step : Network.Step rt serve s s') {number : Nat} {request : HttpRequest}
    (found : s.posted[number]? = some request) : s'.posted[number]? = some request := by
  cases step with
  | post method params idle => exact (List.getElem?_append_left (List.getElem?_eq_some_iff.mp found).1).trans found
  | serve taken => exact found
  | finish answer calling genuine => exact found

/-- The request of that number asks for the purpose. -/
def Posted (asks : ι → Str → List Json → Prop) (c : Caller ι σ) (number : Nat) (purpose : ι) : Prop :=
  ∃ request method params, c.network.posted[number]? = some request ∧ asks purpose method params ∧
    request.Calls method params

theorem Posted.step {number : Nat} {purpose : ι} (posted : c.Posted asks number purpose)
    (step : Step rt asks serve c c') : c'.Posted asks number purpose := by
  obtain ⟨request, method, params, found, asked, calls⟩ := posted
  exact ⟨request, method, params, posted_kept step.network_step found, asked, calls⟩

/-- The purposes of a run are posted under their numbers. -/
theorem Reachable.posted {client : JsonRpcClient} {node : σ} (reachable : Reachable rt asks serve client node c) :
    ∀ number purpose, (number, purpose) ∈ c.purposes → c.Posted asks number purpose := by
  induction reachable with
  | refl => exact fun _ _ member => absurd member List.not_mem_nil
  | @tail before after _ step ih =>
    intro number purpose member
    have kept := fun earlier => (ih number purpose earlier).step step
    cases step with
    | @call latest method params idle asked =>
      rcases List.mem_cons.mp member with same | earlier
      · obtain ⟨rfl, rfl⟩ := Prod.mk.inj same
        exact ⟨before.network.client.request method params, method, params, List.getElem?_concat_length, asked,
          before.network.client.request_calls method params⟩
      · exact kept earlier
    | network _ => exact kept member

/-- The result of a call for a purpose is what the node answered, in a state of its run, to a request that asks for
    it. -/
theorem Reachable.answered {client : JsonRpcClient} {node : σ} (fresh : client.nextId = 0)
    (reachable : Reachable rt asks serve client node c) {number : Nat} {purpose : ι}
    (member : (number, purpose) ∈ c.purposes) :
    ∃ request method params, c.network.posted[number]? = some request ∧ asks purpose method params ∧
      request.Calls method params ∧ ∀ value, (number, .ok value) ∈ c.network.outcomes →
        ∃ log before, Exchange.Served serve node c.network.posted log before ∧
          (serve before request).1 = .result value := by
  obtain ⟨request, method, params, found, asked, calls⟩ := reachable.posted number purpose member
  refine ⟨request, method, params, found, asked, calls, fun value ended => ?_⟩
  obtain ⟨request', log, before, found', run, given⟩ := reachable.network_reachable.answered fresh ended
  obtain rfl := Option.some.inj (found.symm.trans found')
  exact ⟨log, before, run, given⟩

end Caller

end PhantasmaPy
