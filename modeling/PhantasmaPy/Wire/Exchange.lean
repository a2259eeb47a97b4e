import Mathlib.Logic.Relation
import Mathlib.Data.List.Nodup

/-! # Requests and their answers

A client that posts one request after the other, a server, and a network between them that loses, repeats, delays
and reorders.  The client ends a call with an answer that the server gave to that very request, or without one.
-/

namespace PhantasmaPy.Wire

/-- What happened so far.  The number of a request is its place among those posted; the log has every answer that
    the server gave, and `outcomes` how the calls ended, both with the latest first. -/
structure Exchange (σ ρ α : Type) where
  posted : List ρ := []
  pending : Option Nat := none
  server : σ
  log : List (Nat × α) := []
  outcomes : List (Nat × Option α) := []

namespace Exchange

variable {σ ρ α : Type} {serve : σ → ρ → α × σ} {start : σ} {s s' : Exchange σ ρ α}

/-- Nothing keeps the server from taking a request many times, or the client from giving up. -/
inductive Step (serve : σ → ρ → α × σ) (s : Exchange σ ρ α) : Exchange σ ρ α → Prop
  | post (request : ρ) : s.pending = none →
      Step serve s { s with posted := s.posted ++ [request], pending := some s.posted.length }
  | serve {number : Nat} {request : ρ} : s.posted[number]? = some request →
      Step serve s { s with
        server := (serve s.server request).2
        log := (number, (serve s.server request).1) :: s.log }
  | accept {number : Nat} {answer : α} : s.pending = some number → (number, answer) ∈ s.log →
      Step serve s { s with pending := none, outcomes := (number, some answer) :: s.outcomes }
  | giveUp {number : Nat} : s.pending = some number →
      Step serve s { s with pending := none, outcomes := (number, none) :: s.outcomes }

/-- Steps from a server in its first state, with nothing posted. -/
def Reachable (serve : σ → ρ → α × σ) (start : σ) : Exchange σ ρ α → Prop :=
  Relation.ReflTransGen (Step serve) { server := start }

/-- The log is a run of the server on posted requests, from its first state to a given one. -/
inductive Served (serve : σ → ρ → α × σ) (start : σ) (posted : List ρ) : List (Nat × α) → σ → Prop
  | nil : Served serve start posted [] start
  | cons {log : List (Nat × α)} {number : Nat} {request : ρ} {before : σ} :
      Served serve start posted log before → posted[number]? = some request →
      Served serve start posted ((number, (serve before request).1) :: log) (serve before request).2

theorem Served.post {posted : List ρ} {log : List (Nat × α)} {after : σ} (served : Served serve start posted log after)
    (request : ρ) : Served serve start (posted ++ [request]) log after := by
  induction served with
  | nil => exact .nil
  | cons _ found ih => exact .cons ih ((List.getElem?_append_left (List.getElem?_eq_some_iff.mp found).1).trans found)

/-- Every answer of the log was given to the posted request of that number, by the server as a part of the log
    left it. -/
theorem Served.answered {posted : List ρ} {log : List (Nat × α)} {after : σ}
    (served : Served serve start posted log after) {number : Nat} {answer : α} (member : (number, answer) ∈ log) :
    ∃ request earlier before, posted[number]? = some request ∧ Served serve start posted earlier before ∧
      answer = (serve before request).1 := by
  induction served with
  | nil => cases member
  | @cons earlier _ request before run found ih =>
    rcases List.mem_cons.mp member with same | inside
    · obtain ⟨rfl, rfl⟩ := Prod.mk.inj same
      exact ⟨request, earlier, before, found, run, rfl⟩
    · exact ih inside

/-- How many calls have ended. -/
def ended (s : Exchange σ ρ α) : Nat := s.pending.getD s.posted.length

/-- The invariant of the steps: the calls ended one after the other, those with an answer have it from the server,
    and the server's answers are those of a run on the posted requests. -/
structure Sound (serve : σ → ρ → α × σ) (start : σ) (s : Exchange σ ρ α) : Prop where
  pending : ∀ number, s.pending = some number → s.posted.length = number + 1
  ended : s.outcomes.map Prod.fst = (List.range s.ended).reverse
  accepted : ∀ number answer, (number, some answer) ∈ s.outcomes → (number, answer) ∈ s.log
  served : Served serve start s.posted s.log s.server

/-- Ending the pending call, with an answer of the log or without one. -/
theorem Sound.finish (sound : Sound serve start s) {number : Nat} (pending : s.pending = some number)
    {outcome : Option α} (answered : ∀ answer, outcome = some answer → (number, answer) ∈ s.log) :
    Sound serve start { s with pending := none, outcomes := (number, outcome) :: s.outcomes } := by
  have length := sound.pending number pending
  refine ⟨nofun, ?_, ?_, sound.served⟩
  · have before : s.ended = number := by
      unfold Exchange.ended
      rw [pending, Option.getD_some]
    -- the calls before this one have ended, so that it is the last of the range
    have outcomes := sound.ended
    rw [before] at outcomes
    change number :: s.outcomes.map Prod.fst = (List.range s.posted.length).reverse
    rw [length, List.range_succ, List.reverse_append, outcomes]
    rfl
  · intro number' answer member
    rcases List.mem_cons.mp member with same | earlier
    · obtain ⟨rfl, given⟩ := Prod.mk.inj same
      exact answered answer given.symm
    · exact sound.accepted number' answer earlier

theorem Sound.step (sound : Sound serve start s) (step : Step serve s s') : Sound serve start s' := by
  cases step with
  | post request idle =>
    refine ⟨?_, ?_, sound.accepted, sound.served.post request⟩
    · rintro number ⟨⟩
      exact List.length_append
    -- a posted request does not end a call
    · have before : s.ended = s.posted.length := by
        unfold Exchange.ended
        rw [idle, Option.getD_none]
      exact before ▸ sound.ended
  | serve found =>
    refine ⟨sound.pending, sound.ended, ?_, sound.served.cons found⟩
    intro number answer member
    exact List.mem_cons_of_mem _ (sound.accepted number answer member)
  | accept pending logged =>
    apply sound.finish pending
    rintro answer ⟨⟩
    exact logged
  | giveUp pending => exact sound.finish pending nofun

theorem Reachable.sound (reachable : Reachable serve start s) : Sound serve start s := by
  induction reachable with
  | refl => exact ⟨nofun, rfl, nofun, .nil⟩
  | tail _ step ih => exact ih.step step

/-- No call ends twice. -/
theorem Sound.outcomes_nodup (sound : Sound serve start s) : (s.outcomes.map Prod.fst).Nodup := by
  rw [sound.ended, List.nodup_reverse]
  exact List.nodup_range

end Exchange

end PhantasmaPy.Wire
