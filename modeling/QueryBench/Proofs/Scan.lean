import QueryBench.Proofs.Stream
import QueryBench.Run.Config
import QueryBench.Run.Scan

/- Scanning a stream of whole frames: the queries come one by one with their numbers, up to the limit
   or to the end of the stream, and each goes to a channel that there is. -/
namespace QueryBench.Run

/-- How many of `n` queries a limit lets through; zero is no limit. -/
def quota (limit n : Nat) : Nat := if limit = 0 then n else min limit n

def numberedAs (i : Nat) (q : Query) : Query := { q with id := UInt64.ofNat i }

def numbered (k : Nat) (qs : List Query) : List Query :=
  (qs.take k).zipIdx.map fun (q, i) => numberedAs i q

theorem le_quota_iff {limit n k : Nat} :
    k ≤ quota limit n ↔ k ≤ n ∧ (limit = 0 ∨ k ≤ limit) := by
  rw [quota]
  split <;> omega

theorem quota_reached {limit n k : Nat} (within : k ≤ quota limit n)
    (ended : 0 < limit ∧ limit ≤ k ∨ n ≤ k) : k = quota limit n := by
  refine Nat.le_antisymm within ?_
  rw [quota]
  split <;> omega

theorem drop_found {α : Type} {l rest : List α} {k : Nat} {a : α} (left : l.drop k = a :: rest) :
    l[k]? = some a ∧ k < l.length ∧ l.drop (k + 1) = rest := by
  have next : l[k]? = some a := by rw [← List.head?_drop, left, List.head?_cons]
  exact ⟨next, (List.getElem?_eq_some_iff.mp next).1, by rw [← List.tail_drop, left, List.tail_cons]⟩

theorem numbered_zero (qs : List Query) : numbered 0 qs = [] := rfl

theorem length_numbered {k : Nat} {qs : List Query} (within : k ≤ qs.length) :
    (numbered k qs).length = k := by
  rw [numbered, List.length_map, List.length_zipIdx, List.length_take, Nat.min_eq_left within]

theorem numbered_succ {k : Nat} {qs : List Query} {q : Query} (next : qs[k]? = some q) :
    numbered (k + 1) qs = numbered k qs ++ [numberedAs k q] := by
  have inside : k < qs.length := (List.getElem?_eq_some_iff.mp next).1
  have length : (qs.take k).length = k := by
    rw [List.length_take, Nat.min_eq_left (Nat.le_of_lt inside)]
  rw [numbered, List.take_add_one, next, List.zipIdx_append, List.map_append, length,
    Nat.zero_add]
  rfl

theorem mem_numbered {k : Nat} {qs : List Query} {q : Query} (member : q ∈ numbered k qs) :
    ∃ i, ∃ p ∈ qs, q = numberedAs i p := by
  obtain ⟨⟨p, i⟩, inside, rfl⟩ := List.mem_map.mp member
  exact ⟨i, p, List.mem_of_mem_take (List.fst_mem_of_mem_zipIdx inside), rfl⟩

/-- A routing that a run of so many workers can come to from the one it starts with. -/
inductive Routing.Follows (workers : Nat) : Routing → Routing → Prop where
  | shared : Follows workers .shared .shared
  | hashed {first next : Nat} (inside : next < workers) :
      Follows workers (.hashed first) (.hashed next)

namespace Routing
variable {workers : Nat} {r s : Routing}

theorem follows_ofHashed (positive : 0 < workers) (hashed : Bool) :
    Follows workers (ofHashed hashed) (ofHashed hashed) := by
  cases hashed with
  | false => exact .shared
  | true => exact .hashed positive

theorem route_follows (positive : 0 < workers) (follows : Follows workers r s) (q : Query) :
    (s.route workers q).1 < r.channels workers ∧ Follows workers r (s.route workers q).2 := by
  cases follows with
  | shared => exact ⟨Nat.one_pos, .shared⟩
  | @hashed first next inside =>
    rw [route]
    cases q.affinity with
    | some key => exact ⟨Nat.mod_lt _ positive, .hashed inside⟩
    | none => exact ⟨inside, .hashed (Nat.mod_lt _ positive)⟩

theorem channelOf_covers (positive : 0 < workers) {channel : Nat}
    (inside : channel < r.channels workers) : ∃ number < workers, r.channelOf number = channel := by
  cases r with
  | shared => exact ⟨0, positive, (Nat.lt_one_iff.mp inside).symm⟩
  | hashed next => exact ⟨channel, inside, rfl⟩

end Routing

namespace Scan

/-- A scan that has handed `k` of the queries out, and still has the bytes of the others. -/
structure At (c : Config) (qs : List Query) (k : Nat) (s : Scan) : Prop where
  limit : s.limit = c.limit
  workers : s.workers = c.workers
  scanned : s.scanned = k
  within : k ≤ quota c.limit qs.length
  rest : ∃ bs, s.reader.source.Holds bs ∧ Stream.Framed bs (qs.drop k)
  routing : Routing.Follows c.workers c.routing s.routing

theorem at_start {c : Config} (positive : 0 < c.workers) {qs : List Query} {bs : List UInt8}
    {reader : Stream.Reader} (holds : reader.source.Holds bs) (framed : Stream.Framed bs qs) :
    At c qs 0 { reader, limit := c.limit, workers := c.workers, routing := c.routing } where
  limit := rfl
  workers := rfl
  scanned := rfl
  within := Nat.zero_le _
  rest := ⟨bs, holds, framed⟩
  routing := Routing.follows_ofHashed positive c.hashWorkers

/-- The next step of a scan: the query whose turn it is, or the end where no other one has. -/
theorem step_at {c : Config} (positive : 0 < c.workers) {qs : List Query} {k : Nat} {s : Scan}
    (here : s.At c qs k) :
    (s.step = .finished ∧ k = quota c.limit qs.length) ∨
      ∃ q channel after, s.step = .hand (numberedAs k q) channel after ∧ qs[k]? = some q ∧
        channel < c.routing.channels c.workers ∧ after.At c qs (k + 1) := by
  obtain ⟨reader, limit, workers, routing, scanned⟩ := s
  obtain ⟨rfl, rfl, rfl, within, ⟨bs, holds, framed⟩, followed⟩ := here
  by_cases full : 0 < c.limit ∧ c.limit ≤ scanned
  · exact .inl ⟨by rw [step, if_pos full], quota_reached within (.inl full)⟩
  · cases left : qs.drop scanned with
    | nil =>
      have all : qs.length ≤ scanned := List.drop_eq_nil_iff.mp left
      rw [left] at framed
      cases framed
      obtain ⟨rest, read, -⟩ := Stream.Reader.next_end holds
      exact .inl ⟨by rw [step, if_neg full, read], quota_reached within (.inr all)⟩
    | cons q others =>
      obtain ⟨next, inside, behind⟩ := drop_found left
      have more : scanned + 1 ≤ quota c.limit qs.length := le_quota_iff.mpr ⟨inside, by omega⟩
      rw [left] at framed
      cases framed with
      | @cons payload bs q others short spells tail =>
        obtain ⟨rest, read, held⟩ := Stream.Reader.next_frame holds short spells
        obtain ⟨channel, follows⟩ := Routing.route_follows positive followed (numberedAs scanned q)
        let after : Scan :=
          ⟨⟨rest, reader.read + 1⟩, c.limit, c.workers,
            (routing.route c.workers (numberedAs scanned q)).2, scanned + 1⟩
        refine .inr ⟨q, _, after, ?_, next, channel,
          ⟨rfl, rfl, rfl, more, ⟨bs, held, behind ▸ tail⟩, follows⟩⟩
        rw [step, if_neg full, read]
        rfl

end Scan

end QueryBench.Run
