import QueryBench.Proofs.Collector
import QueryBench.Run.State

/- What a worker has done at every point of its life: the calls for the queries that it has taken,
   and for the one at hand as much of them as its state says. -/
namespace QueryBench.Run
open Latency

def callsFor (prewarm : Bool) (qs : List Query) : List Call :=
  qs.flatMap fun q => if prewarm then [⟨q, false⟩, ⟨q, true⟩] else [⟨q, false⟩]

/-- A reply that measures nothing, or one full answer under the label of the query. -/
def Reply.Answers (reply : Reply) (call : Call) : Prop :=
  reply.result = .ok [] ∨
    ∃ o, reply.result = .ok [o] ∧ o.partialResult = false ∧ o.label = call.query.label

/-- Executors that start, and answer every call. -/
structure Executor.Dutiful (x : Executor) : Prop where
  starts : ∀ number, x.start number = .ok ()
  answers : ∀ number earlier call, (x.call number earlier call).Answers call

structure Measures (call : Call) (o : Observation) : Prop where
  label : o.label = call.query.label
  full : o.partialResult = false
  warm : o.warm = call.warm

theorem observations_measure {call : Call} {reply : Reply} (answers : reply.Answers call)
    {measured : List Observation} (told : reply.result = .ok measured) (elapsed : Nat) :
    ∃ o, call.observations measured elapsed = [o] ∧ Measures call o := by
  rcases answers with nothing | ⟨o, one, full, label⟩
  · rw [nothing] at told
    cases told
    exact ⟨_, rfl, rfl, rfl, rfl⟩
  · rw [one] at told
    cases told
    exact ⟨_, rfl, label, full, rfl⟩

theorem callsFor_append (prewarm : Bool) (ps qs : List Query) :
    callsFor prewarm (ps ++ qs) = callsFor prewarm ps ++ callsFor prewarm qs :=
  List.flatMap_append

def firstQueries (calls : List Call) : List Query :=
  (calls.filter fun call => !call.warm).map Call.query

theorem firstQueries_append (calls more : List Call) :
    firstQueries (calls ++ more) = firstQueries calls ++ firstQueries more := by
  rw [firstQueries, List.filter_append, List.map_append]
  rfl

theorem firstQueries_callsFor (prewarm : Bool) (qs : List Query) :
    firstQueries (callsFor prewarm qs) = qs := by
  induction qs with
  | nil => rfl
  | cons q qs ih =>
    have split : callsFor prewarm (q :: qs) = callsFor prewarm [q] ++ callsFor prewarm qs :=
      callsFor_append prewarm [q] qs
    rw [split, firstQueries_append, ih]
    cases prewarm with
    | false => rfl
    | true => rfl

namespace Worker

def taken (w : Worker) : List Query := firstQueries w.calls

def busy (w : Worker) : Bool :=
  match w.state with
  | .entering _ _ _ _ | .leaving _ _ _ _ _ | .sending _ => true
  | .starting | .waiting | .finished | .failed _ => false

/-- A call on its way, the batch so far, and all calls with this one. -/
inductive Calling (prewarm : Bool) : Call → List Observation → List Call → Prop where
  | cold {q : Query} (plain : Plain q.label) (earlier : List Query) :
      Calling prewarm ⟨q, false⟩ [] (callsFor prewarm earlier ++ [⟨q, false⟩])
  | warm {q : Query} {o : Observation} (plain : Plain q.label) (earlier : List Query)
      (double : prewarm = true) (first : Measures ⟨q, false⟩ o) :
      Calling prewarm ⟨q, true⟩ [o] (callsFor prewarm earlier ++ [⟨q, false⟩, ⟨q, true⟩])

/-- The calls and the batch of a worker are those that its state calls for, and nothing failed. -/
def Sound (prewarm : Bool) (w : Worker) : Prop :=
  match w.state with
  | .starting => w.calls = []
  | .waiting | .finished => ∃ qs, w.calls = callsFor prewarm qs
  | .entering call reply _ batch | .leaving call reply _ _ batch =>
      reply.Answers call ∧ Calling prewarm call batch w.calls
  | .sending batch => Answer prewarm batch ∧ ∃ qs, w.calls = callsFor prewarm qs
  | .failed _ => False

variable {prewarm : Bool} {w : Worker}

theorem sound_calling {call : Call} {reply : Reply} {begun finish : Nat}
    {batch : List Observation} (sound : w.Sound prewarm)
    (state : w.state = .leaving call reply begun finish batch) :
    reply.Answers call ∧ Calling prewarm call batch w.calls := by
  rwa [Sound, state] at sound

theorem sound_ended (sound : w.Sound prewarm) (ended : w.ended = true) :
    w.busy = false ∧ w.calls = callsFor prewarm w.taken := by
  unfold Sound at sound
  cases state : w.state with
  | finished =>
    rw [state] at sound
    obtain ⟨qs, made⟩ := sound
    refine ⟨by rw [busy, state], ?_⟩
    rw [taken, made, firstQueries_callsFor]
  | failed e =>
    rw [state] at sound
    exact sound.elim
  | starting | waiting | entering call reply begun batch | leaving call reply begun finish batch
  | sending batch =>
    rw [Worker.ended, state] at ended
    cases ended

theorem calling_answer {call : Call} {batch : List Observation} {calls : List Call}
    (calling : Calling prewarm call batch calls) (last : ¬ (prewarm = true ∧ ¬ call.warm = true))
    {o : Observation} (measures : Measures call o) :
    Answer prewarm (batch ++ [o]) ∧ ∃ qs, calls = callsFor prewarm qs := by
  obtain ⟨label, full, warm⟩ := measures
  cases calling with
  | @cold q plain earlier =>
    have single : prewarm = false := by simpa using last
    refine ⟨.once single (label ▸ plain) full warm, earlier ++ [q], ?_⟩
    rw [callsFor_append, single]
    rfl
  | @warm q p plain earlier double first =>
    refine ⟨.twice double (first.label ▸ plain) first.full first.warm (label ▸ plain) warm,
      earlier ++ [q], ?_⟩
    rw [callsFor_append, double]
    rfl

theorem calling_again {call : Call} {batch : List Observation} {calls : List Call}
    (calling : Calling prewarm call batch calls) (double : prewarm = true)
    (cold : call.warm = false) {o : Observation} (measures : Measures call o) :
    Calling prewarm ⟨call.query, true⟩ (batch ++ [o]) (calls ++ [⟨call.query, true⟩]) := by
  cases calling with
  | @cold q plain earlier =>
    rw [List.append_assoc]
    exact .warm plain earlier double measures
  | warm plain earlier double first => cases cold

end Worker

end QueryBench.Run
