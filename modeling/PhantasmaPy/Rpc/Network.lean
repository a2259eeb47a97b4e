import PhantasmaPy.Rpc.ClientLaws
import PhantasmaPy.Wire.Exchange

/-! # The client over a network

A client whose calls go to a node over a network that may lose, repeat, delay and reorder, and put in what bodies it
likes under any id but that of the call that waits.  Its calls are an exchange of requests and answers, so that no
call takes the answer to another one.
-/

namespace PhantasmaPy

open Wire

/-- What a node has to say to a request. -/
inductive Reply where
  | result (value : Json)
  | error (value : Json)

/-- The `id` of the posted object. -/
def HttpRequest.id (self : HttpRequest) : Json :=
  match self.json with
  | .obj entries => Json.get entries (Str.ofString "id")
  | _ => .null

/-- A body brings the reply to the request: it repeats the id, as a text or as a number. -/
structure Echoes (rt : RpcRuntime) (request : HttpRequest) (reply : Reply) (entries : List (Str × Json)) : Prop where
  present : Json.get entries (Str.ofString "id") ≠ .null
  same : (Json.get entries (Str.ofString "id")).toStr rt.interp.repr = request.id.toStr rt.interp.repr
  brings : match reply with
    | .result value =>
      (Json.get entries (Str.ofString "error")).truthy = false ∧ entries.lookup (Str.ofString "result") = some value
    | .error error => Json.get entries (Str.ofString "error") = error ∧ error.truthy = true

/-! ## One call -/

namespace JsonRpcClient

variable {rt : RpcRuntime} {entries : List (Str × Json)} {requestId : Str} {status : Int}

theorem nextId_new {endpoint : Str} {maxResponseBytes : Int} {apiKey : Option Str} {client : JsonRpcClient}
    (made : new endpoint maxResponseBytes apiKey = .ok client) : client.nextId = 0 := by
  unfold new at made
  split at made
  next => cases made
  next =>
    obtain rfl := Except.ok.inj made
    rfl

theorem request_id (self : JsonRpcClient) (method : Str) (params : List Json) :
    (self.request method params).id = .str self.requestId := rfl

/-- A body with an id is taken exactly if the id prints as that of the request. -/
theorem checkBody_present (present : Json.get entries (Str.ofString "id") ≠ .null) :
    checkBody rt requestId status (.obj entries) =
      if (Json.get entries (Str.ofString "id")).toStr rt.interp.repr ≠ requestId then
        .error (.plain (Str.ofString "RPC response id mismatch: got " ++
          (Json.get entries (Str.ofString "id")).repr rt.interp.repr ++
          Str.ofString ", expected " ++ rt.interp.repr requestId))
      else
        if (Json.get entries (Str.ofString "error")).truthy then
          .error (reported rt (Json.get entries (Str.ofString "error")))
        else
          match entries.lookup (Str.ofString "result") with
          | none => .error (.plain (Str.ofString "RPC response missing result"))
          | some result => .ok result := by
  unfold checkBody
  dsimp only
  generalize Json.get entries (Str.ofString "id") = wireId at present ⊢
  cases wireId with
  | null => contradiction
  | _ => rfl

/-- The exception has no code. -/
def Codeless : CallError → Prop
  | .rpcError _ code _ => code = none
  | .raised _ => True

theorem codeless_plain (message : Str) : Codeless (.plain message) := rfl

theorem codeless_withoutId (entries : List (Str × Json)) : Codeless (withoutId status entries requestId rt) := by
  unfold withoutId
  split
  · dsimp only
    split <;> rfl
  · rfl

/-- How a call can end: with the result or the error of a body that has its id, or without a code. -/
inductive Ends (rt : RpcRuntime) (self : JsonRpcClient) (requestId : Str) (response : Response) :
    Except CallError Json → Prop
  | result {entries : List (Str × Json)} {value : Json} :
      readResponseJson rt response self.maxResponseBytes = .ok (.obj entries) →
      Json.get entries (Str.ofString "id") ≠ .null →
      (Json.get entries (Str.ofString "id")).toStr rt.interp.repr = requestId →
      (Json.get entries (Str.ofString "error")).truthy = false →
      entries.lookup (Str.ofString "result") = some value → Ends rt self requestId response (.ok value)
  | reported {entries : List (Str × Json)} :
      readResponseJson rt response self.maxResponseBytes = .ok (.obj entries) →
      Json.get entries (Str.ofString "id") ≠ .null →
      (Json.get entries (Str.ofString "id")).toStr rt.interp.repr = requestId →
      (Json.get entries (Str.ofString "error")).truthy = true →
      Ends rt self requestId response (.error (reported rt (Json.get entries (Str.ofString "error"))))
  | refused {e : CallError} : Codeless e → Ends rt self requestId response (.error e)

theorem finish_ends (self : JsonRpcClient) (requestId : Str) (response : Response) :
    Ends rt self requestId response (self.finish rt requestId response) := by
  unfold finish
  split
  next => exact .refused (codeless_plain _)
  next => split <;> exact .refused (codeless_plain _)
  next body read =>
    cases body with
    | obj entries =>
      -- a body without an id is never taken as a result
      by_cases present : Json.get entries (Str.ofString "id") = .null
      · have absent : checkBody rt requestId response.status (.obj entries) =
            .error (withoutId response.status entries requestId rt) := by
          unfold checkBody
          dsimp only
          rw [present]
        rw [absent]
        exact .refused (codeless_withoutId entries)
      · rw [checkBody_present present]
        split
        next => exact .refused (codeless_plain _)
        next same =>
          split
          next error => exact .reported read present (not_not.mp same) error
          next fine =>
            split
            next => exact .refused (codeless_plain _)
            next value found => exact .result read present (not_not.mp same) (Bool.not_eq_true _ ▸ fine) found
    | _ => exact .refused (codeless_plain _)

/-- A call returns a result exactly if the body brings it under the id of its request. -/
theorem call_eq_ok {self : JsonRpcClient} {response : Response} {method : Str} {params : List Json} {value : Json} :
    (self.call rt (fun _ => .ok response) method params).1 = .ok value ↔
      ∃ entries, readResponseJson rt response self.maxResponseBytes = .ok (.obj entries) ∧
        Echoes rt (self.request method params) (.result value) entries := by
  change finish { self with nextId := self.nextId + 1 } rt self.requestId response = _ ↔ _
  constructor
  · intro returned
    have ends := @finish_ends rt { self with nextId := self.nextId + 1 } self.requestId response
    rw [returned] at ends
    cases ends with
    | result read present same fine found => exact ⟨_, read, present, same, fine, found⟩
  · rintro ⟨entries, read, echoes⟩
    obtain ⟨fine, found⟩ := echoes.brings
    have same : (Json.get entries (Str.ofString "id")).toStr rt.interp.repr = self.requestId := echoes.same
    have read' : readResponseJson rt response
        ({ self with nextId := self.nextId + 1 } : JsonRpcClient).maxResponseBytes = .ok (.obj entries) := read
    unfold finish
    rw [read']
    dsimp only
    rw [checkBody_present echoes.present, if_neg (not_not.mpr same), if_neg (by rw [fine]; decide), found]

end JsonRpcClient

/-! ## Calls over the network -/

/-- The client and its calls so far, with what the node and the network saw of them.  The number of a request is
    its place among those posted; the log has the replies of the node and `outcomes` what the calls ended with,
    the latest first. -/
structure Network (σ : Type) where
  client : JsonRpcClient
  posted : List HttpRequest := []
  pending : Option (Str × List Json) := none
  node : σ
  log : List (Nat × Reply) := []
  outcomes : List (Nat × Except CallError Json) := []

namespace Network

variable {σ : Type} {rt : RpcRuntime} {serve : σ → HttpRequest → Reply × σ} {s s' : Network σ}

/-- The assumption on the network: a body under the id of the call brings a reply that the node gave to some request,
    maybe another one, maybe long ago.  Under other ids, or none, a body may be anything. -/
def Genuine (rt : RpcRuntime) (s : Network σ) (response : Response) : Prop :=
  ∀ entries, readResponseJson rt response s.client.maxResponseBytes = .ok (.obj entries) →
    Json.get entries (Str.ofString "id") ≠ .null →
    (Json.get entries (Str.ofString "id")).toStr rt.interp.repr = s.client.requestId →
    ∃ number request reply, s.posted[number]? = some request ∧ (number, reply) ∈ s.log ∧
      Echoes rt request reply entries

/-- The node takes posted requests at any time and any number of times.  A call ends with a genuine response, or
    with an exception of the session. -/
inductive Step (rt : RpcRuntime) (serve : σ → HttpRequest → Reply × σ) (s : Network σ) : Network σ → Prop
  | post (method : Str) (params : List Json) : s.pending = none →
      Step rt serve s { s with
        posted := s.posted ++ [s.client.request method params]
        pending := some (method, params) }
  | serve {number : Nat} {request : HttpRequest} : s.posted[number]? = some request →
      Step rt serve s { s with
        node := (serve s.node request).2
        log := (number, (serve s.node request).1) :: s.log }
  | finish {method : Str} {params : List Json} (answer : Except PyError Response) :
      s.pending = some (method, params) → (∀ response, answer = .ok response → Genuine rt s response) →
      Step rt serve s { s with
        client := (s.client.call rt (fun _ => answer) method params).2
        pending := none
        outcomes := (s.posted.length - 1, (s.client.call rt (fun _ => answer) method params).1) :: s.outcomes }

/-- Steps of a client that has not called before, and of a node in its first state. -/
def Reachable (rt : RpcRuntime) (serve : σ → HttpRequest → Reply × σ) (client : JsonRpcClient) (node : σ) :
    Network σ → Prop :=
  Relation.ReflTransGen (Step rt serve) { client, node }

/-- The outcome of a call, and the answer of the node behind it, if any. -/
def Behind (rt : RpcRuntime) (outcome : Nat × Except CallError Json) (answer : Nat × Option Reply) : Prop :=
  outcome.1 = answer.1 ∧
    match outcome.2 with
    | .ok value => answer.2 = some (.result value)
    | .error e => answer.2 = none ∧ JsonRpcClient.Codeless e ∨
        ∃ error, answer.2 = some (.error error) ∧ e = JsonRpcClient.reported rt error

/-- The calls are the exchange: the client's counter is the number of the calls that ended, and the ids number
    the requests. -/
structure Simulates (rt : RpcRuntime) (s : Network σ) (a : Exchange σ HttpRequest Reply) : Prop where
  posted : a.posted = s.posted
  node : a.server = s.node
  log : a.log = s.log
  idle : s.pending = none → a.pending = none
  calling : ∀ method params, s.pending = some (method, params) →
    ∃ before, s.posted = before ++ [s.client.request method params] ∧ a.pending = some before.length
  counter : s.client.nextId = a.ended
  ids : ∀ (number : Nat) (request : HttpRequest), s.posted[number]? = some request →
    request.id = .str (intText number)
  outcomes : List.Forall₂ (Behind rt) s.outcomes a.outcomes

theorem Simulates.start (client : JsonRpcClient) (node : σ) (fresh : client.nextId = 0) :
    Simulates rt { client, node } { server := node } where
  posted := rfl
  node := rfl
  log := rfl
  idle _ := rfl
  calling := nofun
  counter := fresh
  ids _ _ found := by cases found
  outcomes := .nil

/-- The reply in a body that the pending call takes is one to that call. -/
theorem Genuine.number {response : Response} {entries : List (Str × Json)} {pending : Nat}
    (genuine : Genuine rt s response)
    (ids : ∀ (number : Nat) (request : HttpRequest), s.posted[number]? = some request →
      request.id = .str (intText number))
    (counter : s.client.requestId = intText pending)
    (read : readResponseJson rt response s.client.maxResponseBytes = .ok (.obj entries))
    (present : Json.get entries (Str.ofString "id") ≠ .null)
    (same : (Json.get entries (Str.ofString "id")).toStr rt.interp.repr = s.client.requestId) :
    ∃ request reply, (pending, reply) ∈ s.log ∧ Echoes rt request reply entries := by
  obtain ⟨number, request, reply, found, logged, echoes⟩ := genuine entries read present same
  -- a reply to another request would have another id
  have text := echoes.same.symm.trans (same.trans counter)
  rw [ids number request found] at text
  obtain rfl : number = pending := by exact_mod_cast intText_injective text
  exact ⟨request, reply, logged, echoes⟩

/-- How a call ends is an answer of the node to that call, or none. -/
theorem call_behind {method : Str} {params : List Json} {answer : Except PyError Response} {pending : Nat}
    (genuine : ∀ response, answer = .ok response → Genuine rt s response)
    (ids : ∀ (number : Nat) (request : HttpRequest), s.posted[number]? = some request →
      request.id = .str (intText number))
    (counter : s.client.nextId = pending) :
    ∃ reply : Option Reply, (∀ found, reply = some found → (pending, found) ∈ s.log) ∧
      Behind rt (pending, (s.client.call rt (fun _ => answer) method params).1) (pending, reply) := by
  cases answer with
  | error e => exact ⟨none, nofun, rfl, .inl ⟨rfl, trivial⟩⟩
  | ok response =>
    have number : s.client.requestId = intText pending := by
      unfold JsonRpcClient.requestId
      rw [counter]
    have ends := @JsonRpcClient.finish_ends rt { s.client with nextId := s.client.nextId + 1 } s.client.requestId
      response
    change ∃ reply : Option Reply, _ ∧ Behind rt (pending,
      JsonRpcClient.finish { s.client with nextId := s.client.nextId + 1 } rt s.client.requestId response) _
    generalize JsonRpcClient.finish { s.client with nextId := s.client.nextId + 1 } rt s.client.requestId response =
      outcome at ends ⊢
    -- only a body under the id of this call ends it with an answer, and such a body is genuine
    cases ends with
    | result read present same fine found =>
      obtain ⟨_, reply, logged, echoes⟩ :=
        (genuine response rfl).number ids number read present same
      refine ⟨some reply, fun _ given => Option.some.inj given ▸ logged, rfl, ?_⟩
      have brings := echoes.brings
      cases reply with
      | result value => rw [Option.some.inj (found.symm.trans brings.2)]
      | error error =>
        rw [brings.1, brings.2] at fine
        cases fine
    | reported read present same wrong =>
      obtain ⟨_, reply, logged, echoes⟩ :=
        (genuine response rfl).number ids number read present same
      refine ⟨some reply, fun _ given => Option.some.inj given ▸ logged, rfl, .inr ?_⟩
      have brings := echoes.brings
      cases reply with
      | result value =>
        rw [brings.1] at wrong
        cases wrong
      | error error => exact ⟨error, rfl, by rw [brings.1]⟩
    | refused codeless => exact ⟨none, nofun, rfl, .inl ⟨rfl, codeless⟩⟩

/-- The ids go on numbering the requests when one more is posted under the next number. -/
theorem ids_concat {posted : List HttpRequest} {latest : HttpRequest}
    (ids : ∀ (number : Nat) (request : HttpRequest), posted[number]? = some request →
      request.id = .str (intText number))
    (next : latest.id = .str (intText posted.length)) (number : Nat) (request : HttpRequest)
    (found : (posted ++ [latest])[number]? = some request) : request.id = .str (intText number) := by
  rcases Nat.lt_or_ge number posted.length with earlier | last
  · rw [List.getElem?_append_left earlier] at found
    exact ids number request found
  · have length := (List.getElem?_eq_some_iff.mp found).1
    rw [List.length_append, List.length_singleton] at length
    obtain rfl : number = posted.length := by omega
    rw [List.getElem?_concat_length] at found
    obtain rfl := Option.some.inj found
    exact next

/-- The end of a call over the network is the end of the call of the exchange, with the answer behind it. -/
theorem Simulates.finish {a : Exchange σ HttpRequest Reply} (simulates : Simulates rt s a)
    {client : JsonRpcClient} {outcome : Nat × Except CallError Json} {answer : Nat × Option Reply}
    (counter : client.nextId = a.posted.length) (behind : Behind rt outcome answer) :
    Simulates rt { s with client, pending := none, outcomes := outcome :: s.outcomes }
      { a with pending := none, outcomes := answer :: a.outcomes } where
  posted := simulates.posted
  node := simulates.node
  log := simulates.log
  idle _ := rfl
  calling := nofun
  counter := counter
  ids := simulates.ids
  outcomes := .cons behind simulates.outcomes

/-- Each step over the network is one step of the exchange. -/
theorem Simulates.step {a : Exchange σ HttpRequest Reply} (simulates : Simulates rt s a)
    (sound : ∀ number, a.pending = some number → a.posted.length = number + 1) (step : Step rt serve s s') :
    ∃ a', Exchange.Step serve a a' ∧ Simulates rt s' a' := by
  cases step with
  | post method params idle =>
    have none := simulates.idle idle
    -- no call is pending, so that all the posted ones have ended
    have counter : s.client.nextId = s.posted.length := by
      rw [simulates.counter, Exchange.ended, none, Option.getD_none, simulates.posted]
    have next : (s.client.request method params).id = .str (intText s.posted.length) := by
      rw [JsonRpcClient.request_id, JsonRpcClient.requestId, counter]
    refine ⟨_, .post (s.client.request method params) none, ?_⟩
    refine ⟨congrArg (· ++ _) simulates.posted, simulates.node, simulates.log, nofun, ?_, ?_,
      ids_concat simulates.ids next, simulates.outcomes⟩
    · rintro _ _ ⟨⟩
      exact ⟨s.posted, rfl, by rw [simulates.posted]⟩
    · rw [counter, ← simulates.posted]
      rfl
  | @serve number request found =>
    have abstract : a.posted[number]? = some request := simulates.posted ▸ found
    refine ⟨_, .serve abstract, ?_⟩
    rw [simulates.node, simulates.log]
    exact { simulates with node := rfl, log := rfl, counter := simulates.counter }
  | @finish method params answer calling genuine =>
    obtain ⟨before, split, pending⟩ := simulates.calling method params calling
    have number : s.posted.length - 1 = before.length := by
      rw [split, List.length_append, List.length_singleton, Nat.add_sub_cancel]
    have counter : s.client.nextId = before.length := by
      rw [simulates.counter, Exchange.ended, pending, Option.getD_some]
    obtain ⟨reply, logged, behind⟩ := call_behind genuine simulates.ids counter
    -- the counter goes up whether or not the session raises
    have after : (s.client.call rt (fun _ => answer) method params).2.nextId = s.client.nextId + 1 := by
      cases answer <;> rfl
    have ended := simulates.finish (after.trans (counter ▸ (sound _ pending).symm)) behind
    rw [number]
    cases reply with
    | none => exact ⟨_, .giveUp pending, ended⟩
    | some found => exact ⟨_, .accept pending (simulates.log ▸ logged found rfl), ended⟩

/-- Every run over the network is a run of the exchange. -/
theorem Reachable.simulated {client : JsonRpcClient} {node : σ} (fresh : client.nextId = 0)
    (reachable : Reachable rt serve client node s) :
    ∃ a, Exchange.Reachable serve node a ∧ Simulates rt s a := by
  induction reachable with
  | refl => exact ⟨_, .refl, .start client node fresh⟩
  | tail _ step ih =>
    obtain ⟨a, reached, simulates⟩ := ih
    obtain ⟨a', next, simulates'⟩ := simulates.step reached.sound.pending step
    exact ⟨a', reached.tail next, simulates'⟩

/-- The node returned the value to the request of that number, in a state of its run. -/
theorem Reachable.answered {client : JsonRpcClient} {node : σ} (fresh : client.nextId = 0)
    (reachable : Reachable rt serve client node s) {number : Nat} {value : Json}
    (member : (number, .ok value) ∈ s.outcomes) :
    ∃ request log before, s.posted[number]? = some request ∧ Exchange.Served serve node s.posted log before ∧
      (serve before request).1 = .result value := by
  obtain ⟨a, reached, simulates⟩ := reachable.simulated fresh
  obtain ⟨⟨number', answer⟩, inside, same, behind⟩ := forall₂_exists_right simulates.outcomes member
  obtain rfl : number = number' := same
  obtain rfl : answer = some (.result value) := behind
  obtain ⟨request, log, before, found, run, given⟩ :=
    reached.sound.served.answered (reached.sound.accepted _ _ inside)
  exact ⟨request, log, before, simulates.posted ▸ found, simulates.posted ▸ run, given.symm⟩

/-- Unless the network makes up bodies under the id of the call that waits, a call returns what the node answered to
    that very call, and raises a code that the node reported for it; no call ends twice, and the answers are those
    of one run of the node.  A result is taken exactly from a body under the id of the call. -/
theorem answers_uncrossed (rt : RpcRuntime) (serve : σ → HttpRequest → Reply × σ) (node : σ) (endpoint : Str)
    (maxResponseBytes : Int) (apiKey : Option Str) (client : JsonRpcClient)
    (made : JsonRpcClient.new endpoint maxResponseBytes apiKey = .ok client) (s : Network σ)
    (reachable : Reachable rt serve client node s) :
    (s.outcomes.map Prod.fst).Nodup ∧
    (∀ number value, (number, .ok value) ∈ s.outcomes → (number, .result value) ∈ s.log) ∧
    (∀ number message code data, (number, .error (.rpcError message (some code) data)) ∈ s.outcomes →
      ∃ error, (number, .error error) ∈ s.log ∧
        JsonRpcClient.reported rt error = .rpcError message (some code) data) ∧
    Exchange.Served serve node s.posted s.log s.node ∧
    ∀ method params response value, (s.client.call rt (fun _ => .ok response) method params).1 = .ok value ↔
      ∃ entries, readResponseJson rt response s.client.maxResponseBytes = .ok (.obj entries) ∧
        Echoes rt (s.client.request method params) (.result value) entries := by
  obtain ⟨a, reached, simulates⟩ := reachable.simulated (JsonRpcClient.nextId_new made)
  have sound := reached.sound
  -- the exchange keeps the same numbers for its answers
  have numbers : s.outcomes.map Prod.fst = a.outcomes.map Prod.fst := by
    have matched := simulates.outcomes
    generalize s.outcomes = outcomes at matched
    generalize a.outcomes = answers at matched
    induction matched with
    | nil => rfl
    | cons behind _ ih => rw [List.map_cons, List.map_cons, behind.1, ih]
  refine ⟨numbers ▸ sound.outcomes_nodup, ?_, ?_, ?_, ?_⟩
  · intro number value member
    obtain ⟨⟨number', answer⟩, inside, same, behind⟩ := forall₂_exists_right simulates.outcomes member
    obtain rfl : number = number' := same
    obtain rfl : answer = some (.result value) := behind
    exact simulates.log ▸ sound.accepted _ _ inside
  · intro number message code data member
    obtain ⟨⟨number', answer⟩, inside, same, behind⟩ := forall₂_exists_right simulates.outcomes member
    obtain rfl : number = number' := same
    rcases behind with ⟨-, codeless⟩ | ⟨error, given, reported⟩
    · cases codeless
    · obtain rfl : answer = some (.error error) := given
      exact ⟨error, simulates.log ▸ sound.accepted _ _ inside, reported.symm⟩
  · have served := sound.served
    rwa [simulates.posted, simulates.log, simulates.node] at served
  · intro method params response value
    exact JsonRpcClient.call_eq_ok

def sevenEntries : List (Str × Json) := [(Str.ofString "id", .int 1), (Str.ofString "result", .int 7)]

def sevenResponse : Response := { json := .ok (.obj sevenEntries) }

/-- A body under the id of the next call is made up, and refused; then the node answers that call with seven. -/
theorem answers_uncrossed_seven : ∃ (client : JsonRpcClient) (s : Network Unit),
    Reachable plainRuntime (fun _ _ => (.result (.int 7), ())) client () s ∧
      (∃ e, (0, .error e) ∈ s.outcomes) ∧ (1, .ok (.int 7)) ∈ s.outcomes ∧ (1, .result (.int 7)) ∈ s.log := by
  let client : JsonRpcClient := { endpoint := [], maxResponseBytes := 100, apiKey := none }
  let second : JsonRpcClient := { client with nextId := 1 }
  let serve : Unit → HttpRequest → Reply × Unit := fun _ _ => (.result (.int 7), ())
  let refusal := client.finish plainRuntime client.requestId sevenResponse
  let posted : Network Unit :=
    { client, node := (), posted := [client.request [] []], pending := some ([], []) }
  let refused : Network Unit :=
    { posted with client := second, pending := none, outcomes := [(0, refusal)] }
  let again : Network Unit :=
    { refused with posted := [client.request [] [], second.request [] []], pending := some ([], []) }
  let served : Network Unit := { again with log := [(1, .result (.int 7))] }
  let finished : Network Unit :=
    { served with client := { client with nextId := 2 }, pending := none
                  outcomes := [(1, .ok (.int 7)), (0, refusal)] }
  have forged : Genuine plainRuntime posted sevenResponse := by
    intro entries read _ same
    obtain rfl : sevenEntries = entries := Json.obj.inj (Except.ok.inj read)
    exact absurd same (by decide +kernel)
  have genuine : Genuine plainRuntime served sevenResponse := by
    intro entries read _ _
    obtain rfl : sevenEntries = entries := Json.obj.inj (Except.ok.inj read)
    exact ⟨1, _, .result (.int 7), rfl, List.mem_singleton.mpr rfl, nofun, by decide +kernel, rfl, rfl⟩
  have first : Step plainRuntime serve { client, node := () } posted := .post [] [] rfl
  have stopped : Step plainRuntime serve posted refused := by
    refine .finish (.ok sevenResponse) rfl ?_
    rintro _ ⟨⟩
    exact forged
  have next : Step plainRuntime serve refused again := .post [] [] rfl
  have answer : Step plainRuntime serve again served := @Step.serve _ _ serve again 1 _ rfl
  have last : Step plainRuntime serve served finished := by
    refine .finish (.ok sevenResponse) rfl ?_
    rintro _ ⟨⟩
    exact genuine
  have reachable : Reachable plainRuntime serve client () finished :=
    ((((Relation.ReflTransGen.refl.tail first).tail stopped).tail next).tail answer).tail last
  have error : ∃ e, refusal = .error e := by
    cases ended : refusal with
    | error e => exact ⟨e, rfl⟩
    | ok value =>
      have taken : (client.call plainRuntime (fun _ => .ok sevenResponse) [] []).1 = .ok value := ended
      obtain ⟨entries, read, echoes⟩ := JsonRpcClient.call_eq_ok.mp taken
      obtain rfl : sevenEntries = entries := Json.obj.inj (Except.ok.inj read)
      exact absurd echoes.same (by decide +kernel)
  have member : (1, .ok (.int 7)) ∈ finished.outcomes := List.mem_cons_self
  obtain ⟨-, answered, -⟩ := answers_uncrossed plainRuntime serve () [] 100 none client rfl finished reachable
  obtain ⟨e, ended⟩ := error
  exact ⟨client, finished, reachable, ⟨e, ended ▸ List.mem_cons_of_mem _ List.mem_cons_self⟩, member,
    answered 1 (.int 7) member⟩

end Network

end PhantasmaPy
