import QueryBench.Proofs.Queries
import QueryBench.Proofs.Scan

/- A scan from its beginning to its end, with receivers that take queries or do not. What it hands
   out is decided by the frames before it, up to the limit or to the end of the stream. -/
namespace QueryBench.Run
open QueryBench.Stream (Framed)

def numberedFrom (i : Nat) (qs : List Query) : List Query :=
  (qs.zipIdx i).map fun (q, i) => numberedAs i q

theorem numbered_all (qs : List Query) : numbered qs.length qs = numberedFrom 0 qs := by
  rw [numbered, List.take_length, numberedFrom]

theorem numberedFrom_cons (i : Nat) (q : Query) (qs : List Query) :
    numberedFrom i (q :: qs) = numberedAs i q :: numberedFrom (i + 1) qs := rfl

namespace Routing
variable {takes : List (Nat × Query) → Nat × Query → Bool} {workers : Nat}

/-- Hands queries out in their order, each to its channel, until nobody takes the next one. What is
taken may depend on all that was handed out before. -/
def deal (takes : List (Nat × Query) → Nat × Query → Bool) (workers : Nat) :
    Routing → List (Nat × Query) → List Query → List (Nat × Query)
  | _, handed, [] => handed
  | routing, handed, q :: qs =>
      let (channel, routing) := routing.route workers q
      if takes handed (channel, q) then
        deal takes workers routing (handed ++ [(channel, q)]) qs
      else handed

theorem deal_front (routing : Routing) (handed : List (Nat × Query)) (qs : List Query) :
    ∃ front, front <+: qs ∧
      (routing.deal takes workers handed qs).map Prod.snd = handed.map Prod.snd ++ front := by
  induction qs generalizing routing handed with
  | nil => exact ⟨[], List.nil_prefix, (List.append_nil _).symm⟩
  | cons q qs ih =>
    simp only [deal]
    split
    · obtain ⟨front, isFront, dealt⟩ :=
        ih (routing.route workers q).2 (handed ++ [((routing.route workers q).1, q)])
      refine ⟨q :: front, List.cons_prefix_cons.mpr ⟨rfl, isFront⟩, ?_⟩
      rw [dealt, List.map_append, List.append_assoc]
      rfl
    · exact ⟨[], List.nil_prefix, (List.append_nil _).symm⟩

theorem deal_all (willing : ∀ handed next, takes handed next = true) (routing : Routing)
    (handed : List (Nat × Query)) (qs : List Query) :
    (routing.deal takes workers handed qs).map Prod.snd = handed.map Prod.snd ++ qs := by
  induction qs generalizing routing handed with
  | nil => exact (List.append_nil _).symm
  | cons q qs ih =>
    simp only [deal, willing, if_true]
    rw [ih, List.map_append, List.append_assoc]
    rfl

end Routing

namespace Scan
variable {takes : List (Nat × Query) → Nat × Query → Bool} {s t : Scan} {q : Query}
  {qs : List Query} {tail : List UInt8} {failure? : Option Fault}

theorem step_takes {channel : Nat} {after : Scan} (next : s.step = .hand q channel after) :
    (Source.content after.reader.source.deliveries).length
      < (Source.content s.reader.source.deliveries).length := by
  unfold step at next
  split at next
  · cases next
  · split at next
    · cases next
    · cases next
    · rename_i read
      cases next
      exact Stream.Reader.next_query_takes read

/-- What was handed out in the end, and to which channels; how many queries the scan counts, or why
it failed; and the scan behind the last query that was taken. -/
structure Handed where
  handed : List (Nat × Query)
  outcome : Except Stream.Error Nat
  behind : Scan

def handAll (takes : List (Nat × Query) → Nat × Query → Bool) (handed : List (Nat × Query))
    (s : Scan) : Handed :=
  match _next : s.step with
  | .hand q channel after =>
      if takes handed (channel, q) then after.handAll takes (handed ++ [(channel, q)])
      else ⟨handed, .ok s.scanned, s⟩
  | .finished => ⟨handed, .ok s.scanned, s⟩
  | .failed e => ⟨handed, .error e, s⟩
termination_by (Source.content s.reader.source.deliveries).length
decreasing_by exact step_takes _next

theorem handAll_hand {channel : Nat} {after : Scan} (next : s.step = .hand q channel after)
    (handed : List (Nat × Query)) :
    s.handAll takes handed =
      if takes handed (channel, q) then after.handAll takes (handed ++ [(channel, q)])
      else ⟨handed, .ok s.scanned, s⟩ := by
  rw [handAll]
  split
  · rename_i found
    rw [next] at found
    cases found
    rfl
  · rename_i found
    rw [next] at found
    cases found
  · rename_i found
    rw [next] at found
    cases found

theorem handAll_finished (next : s.step = .finished) (handed : List (Nat × Query)) :
    s.handAll takes handed = ⟨handed, .ok s.scanned, s⟩ := by
  rw [handAll]
  split
  · rename_i found
    rw [next] at found
    cases found
  · rfl
  · rename_i found
    rw [next] at found
    cases found

/-- Frames of some queries are next, then a tail, and then the end or a failure. -/
def Before (tail : List UInt8) (failure? : Option Fault) (qs : List Query) (s : Scan) : Prop :=
  ∃ bs, s.reader.source.Has (bs ++ tail) failure? ∧ Framed bs qs

def past (s : Scan) (q : Query) (reader : Stream.Reader) : Scan :=
  { s with reader, routing := (s.routing.route s.workers q).2, scanned := s.scanned + 1 }

theorem step_limited (limited : 0 < s.limit) (reached : s.limit ≤ s.scanned) :
    s.step = .finished := by
  rw [step, if_pos ⟨limited, reached⟩]

theorem step_before (below : s.limit = 0 ∨ s.scanned < s.limit)
    (before : s.Before tail failure? (q :: qs)) :
    ∃ reader, s.step = .hand (numberedAs s.scanned q)
        (s.routing.route s.workers (numberedAs s.scanned q)).1
        (s.past (numberedAs s.scanned q) reader) ∧
      (s.past (numberedAs s.scanned q) reader).Before tail failure? qs := by
  have open_ : ¬ (0 < s.limit ∧ s.limit ≤ s.scanned) := by omega
  obtain ⟨_, has, framed⟩ := before
  cases framed with
  | @cons payload bs q qs short spells framed =>
    rw [List.append_assoc] at has
    obtain ⟨rest, read, left⟩ := Stream.Reader.next_has_frame has short spells
    refine ⟨⟨rest, s.reader.read + 1⟩, ?_, bs, left, framed⟩
    rw [step, if_neg open_, read]
    rfl

theorem step_end (before : s.Before [] none []) : s.step = .finished := by
  obtain ⟨_, has, framed⟩ := before
  cases framed
  obtain ⟨rest, read, -⟩ := Stream.Reader.next_end (Source.has_holds has)
  rw [step, read]
  split
  · rfl
  · rfl

/-- A scan hands out the queries before it, as far as they are taken, if the limit is reached or the
stream ends behind them. Once all of them are handed out, the tail has not been touched. -/
theorem handAll_before {handed : List (Nat × Query)} (counted : handed.length = s.scanned)
    (before : s.Before tail failure? qs) (room : s.limit = 0 ∨ s.scanned + qs.length ≤ s.limit)
    (stops : (0 < s.limit ∧ s.limit = s.scanned + qs.length) ∨ (tail = [] ∧ failure? = none)) :
    ∃ dealt behind, s.handAll takes handed = ⟨dealt, .ok dealt.length, behind⟩ ∧
      dealt = s.routing.deal takes s.workers handed (numberedFrom s.scanned qs) ∧
      (dealt.length = s.scanned + qs.length → behind.reader.source.Has tail failure?) := by
  induction qs generalizing s handed with
  | nil =>
    have stopped : s.step = .finished := by
      rcases stops with ⟨limited, reached⟩ | ⟨rfl, rfl⟩
      · exact step_limited limited (Nat.le_of_eq reached)
      · exact step_end before
    refine ⟨handed, s, ?_, rfl, ?_⟩
    · rw [handAll_finished stopped, counted]
    · intro _
      obtain ⟨_, has, framed⟩ := before
      cases framed
      exact has
  | cons q qs ih =>
    rw [List.length_cons] at room stops
    obtain ⟨reader, next, left⟩ := step_before (by omega) before
    rw [handAll_hand next, numberedFrom_cons]
    simp only [Routing.deal]
    split
    · -- the query is taken, and the rest is up to the scan behind it
      have more : s.limit = 0 ∨ s.scanned + 1 + qs.length ≤ s.limit := by omega
      have stops' : (0 < s.limit ∧ s.limit = s.scanned + 1 + qs.length) ∨
          (tail = [] ∧ failure? = none) := by
        apply stops.imp_left
        omega
      have counted' : (handed ++ [((s.routing.route s.workers (numberedAs s.scanned q)).1,
          numberedAs s.scanned q)]).length = s.scanned + 1 := by
        rw [List.length_append, counted, List.length_singleton]
      obtain ⟨dealt, behind, ran, same, untouched⟩ := ih counted' left more stops'
      refine ⟨dealt, behind, ran, same, ?_⟩
      intro all
      apply untouched
      rw [all, List.length_cons, Nat.add_comm qs.length, ← Nat.add_assoc]
      rfl
    · refine ⟨handed, s, by rw [counted], rfl, ?_⟩
      intro all
      rw [counted, List.length_cons] at all
      omega

end Scan

/-- A scan hands queries out as far as the receivers take them, counts those that were taken, and
has not touched what stands behind the queries once it has handed out all. -/
structure Scan.HandsOut (takes : List (Nat × Query) → Nat × Query → Bool) (qs : List Query)
    (tail : List UInt8) (failure? : Option Fault) (s : Scan) (handed : List (Nat × Query)) :
    Prop where
  ran : ∃ behind, s.handAll takes [] = ⟨handed, .ok handed.length, behind⟩ ∧
    (handed.length = qs.length → behind.reader.source.Has tail failure?)
  dealt : handed = s.routing.deal takes s.workers [] qs
  front : handed.map Prod.snd <+: qs
  all : (∀ earlier next, takes earlier next = true) → handed.map Prod.snd = qs

theorem Scan.handsOut_before {takes : List (Nat × Query) → Nat × Query → Bool} {s : Scan}
    {qs : List Query} {tail : List UInt8} {failure? : Option Fault} (fresh : s.scanned = 0)
    (before : s.Before tail failure? qs) (room : s.limit = 0 ∨ qs.length ≤ s.limit)
    (stops : (0 < s.limit ∧ s.limit = qs.length) ∨ (tail = [] ∧ failure? = none)) :
    s.HandsOut takes (numbered qs.length qs) tail failure?
      (s.routing.deal takes s.workers [] (numbered qs.length qs)) := by
  have offset : s.scanned + qs.length = qs.length := by rw [fresh, Nat.zero_add]
  have counted : ([] : List (Nat × Query)).length = s.scanned := fresh.symm
  obtain ⟨dealt, behind, ran, same, untouched⟩ :=
    @handAll_before takes s qs tail failure? [] counted before (offset.symm ▸ room)
      (offset.symm ▸ stops)
  rw [fresh, ← numbered_all] at same
  rw [offset] at untouched
  rw [← same]
  refine ⟨⟨behind, ran, ?_⟩, same, ?_, ?_⟩
  · rwa [length_numbered (Nat.le_refl _)]
  · obtain ⟨front, isFront, found⟩ := Routing.deal_front s.routing [] (numbered qs.length qs)
    rw [same, found]
    exact isFront
  · intro willing
    rw [same, Routing.deal_all willing]
    rfl

end QueryBench.Run
