import Mathlib.Data.List.Induction
import QueryBench.Proofs.Feasible

/- What the queries of a workload ask for. Each of them is about hosts and a window of its own, which
   suit its kind, and all its texts are made of these; nothing of the query before is left in it. -/
namespace QueryBench
open Workload

namespace Interval

/-- A window of the given length that lies in a range of time. -/
structure Within (range : Interval) (length : Duration) (window : Interval) : Prop where
  starts : range.start ≤ window.start
  spans : window.finish = window.start + length.nanos
  ends : window.finish ≤ range.finish

theorem windowAt?_within {range window : Interval} {length : Duration} {offset : Nat}
    (found : range.windowAt? length offset = some window) : range.Within length window := by
  unfold windowAt? at found
  split at found
  · rename_i inside
    cases found
    exact ⟨by simp only; omega, rfl, inside⟩
  · cases found

theorem windowAt?_first {range : Interval} {length : Duration} (enough : length.nanos ≤ range.span) :
    ∃ window, range.windowAt? length 0 = some window := by
  have ordered := range.ordered
  have inside : range.start + (0 : Nat) + length.nanos ≤ range.finish := by
    unfold span at enough
    omega
  exact ⟨_, dif_pos inside⟩

theorem randomWindow_within {range window : Interval} {length : Duration} {k after : Keystream}
    (drawn : range.randomWindow length k = (.ok window, after)) : range.Within length window := by
  unfold randomWindow at drawn
  split at drawn
  · cases drawn
  · rename_i enough
    split at drawn
    · rename_i whole
      cases drawn
      have ordered := range.ordered
      unfold span at whole
      exact ⟨Int.le_refl _, by omega, Int.le_refl _⟩
    · obtain ⟨window₀, first⟩ := windowAt?_first (Nat.le_of_not_lt enough)
      have otherwise : range.Within length ((range.windowAt? length 0).getD range) := by
        rw [first]
        exact windowAt?_within first
      have accepted : ∀ word found, word < 2 ^ Width.long.bits →
          range.windowOfWord? length word = some found → range.Within length found := by
        intro word found _ taken
        obtain ⟨offset, -, placed⟩ := Option.bind_eq_some_iff.mp taken
        exact windowAt?_within placed
      have found := Keystream.search_found (fun _ => (range.windowAt? length 0).getD range) accepted
        otherwise Keystream.period k
      cases drawn
      exact found

end Interval

/-- The request of a kind about the given hosts and window. -/
def Kind.request (hosts : List String) (window : Interval) : Kind → Request
  | .singleGroupby metrics _ _ => .singleGroupby (Metric.all.take metrics) hosts window
  | .maxAll _ => .maxAll hosts window
  | .doubleGroupby metrics => .doubleGroupby (Metric.all.take metrics) window
  | .highCpu _ => .highCpu hosts window
  | .lastPoint => .lastPoint
  | .orderByLimit => .orderByLimit window

theorem Metric.first_ok {count : Nat} {metrics : List String} (given : first count = .ok metrics) :
    metrics = all.take count := by
  unfold first at given
  split at given
  · cases given
  · split at given
    · cases given
    · cases given
      rfl

/-- Numbers of hosts and a window that suit a kind. -/
structure Kind.Suited (kind : Kind) (range : Interval) (scale : Nat) (numbers : List Nat)
    (window : Interval) : Prop where
  hosts : Sample.Distinct kind.hosts scale numbers
  window : ∀ length, kind.window? = some length → range.Within length window

def hostNames (numbers : List Nat) : List String := numbers.map (Sample.nameOf "host")

theorem Request.asked_suited {range : Interval} {scale : Nat} {kind : Kind} {request : Request}
    (asked : request.Asked range scale kind) :
    ∃ numbers window, kind.Suited range scale numbers window ∧
      request = kind.request (hostNames numbers) window := by
  have nobody : Sample.Distinct 0 scale [] := ⟨rfl, .nil, by simp⟩
  have within : ∀ {kind : Kind} {length : Duration} {window : Interval},
      PickedWindow range length window → kind.window? = some length →
        ∀ other, kind.window? = some other → range.Within other window := by
    rintro kind length window ⟨k, after, drawn⟩ looks other same
    obtain rfl := Option.some.inj (looks.symm.trans same)
    exact Interval.randomWindow_within drawn
  cases asked with
  | singleGroupby first picked placed =>
    obtain ⟨numbers, distinct, rfl⟩ := pickedHosts_named picked
    rw [Metric.first_ok first]
    exact ⟨numbers, _, ⟨distinct, within placed rfl⟩, rfl⟩
  | maxAll picked placed =>
    obtain ⟨numbers, distinct, rfl⟩ := pickedHosts_named picked
    exact ⟨numbers, _, ⟨distinct, within placed rfl⟩, rfl⟩
  | doubleGroupby first placed =>
    rw [Metric.first_ok first]
    exact ⟨[], _, ⟨nobody, within placed rfl⟩, rfl⟩
  | highCpuAll placed => exact ⟨[], _, ⟨nobody, within placed rfl⟩, rfl⟩
  | highCpu hosted picked placed =>
    obtain ⟨numbers, distinct, rfl⟩ := pickedHosts_named picked
    exact ⟨numbers, _, ⟨distinct, within placed rfl⟩, rfl⟩
  | lastPoint => exact ⟨[], range, ⟨nobody, nofun⟩, rfl⟩
  | orderByLimit placed => exact ⟨[], _, ⟨nobody, within placed rfl⟩, rfl⟩

/-- The time that the description of a query of the kind shows. -/
def Kind.timeText? (window : Interval) : Kind → Option String
  | .lastPoint => none
  | .orderByLimit => some window.finishText
  | .singleGroupby _ _ _ | .maxAll _ | .doubleGroupby _ | .highCpu _ => some window.startText

namespace Format

def title : Format → String
  | .timescale => Timescale.title
  | .siri => Siri.title

def statement (useTimeBucket : Bool) : Format → Request → String
  | .timescale => Timescale.statement (Timescale.buckets useTimeBucket)
  | .siri => Siri.statement

def render (useTimeBucket : Bool) (format : Format) (request : Request) : Payload :=
  match format with
  | .timescale => .sql "cpu" (format.statement useTimeBucket request)
  | .siri => .siri (format.statement useTimeBucket request)

def timeClause : Format → Interval → String
  | .timescale => Timescale.timeClause
  | .siri => Siri.timeClause

def hostClause : Format → List String → String
  | .timescale => Timescale.hostClause
  | .siri => Siri.union

end Format

theorem Timescale.statement_end {b : Buckets} {window other : Interval}
    (same : other.finish = window.finish) :
    statement b (.orderByLimit other) = statement b (.orderByLimit window) := by
  unfold statement
  simp only [same]

theorem Siri.statement_end (window other : Interval) :
    statement (.orderByLimit other) = statement (.orderByLimit window) := by
  unfold statement
  rfl

theorem Format.render_end (format : Format) (useTimeBucket : Bool) {window other : Interval}
    (same : other.finish = window.finish) :
    format.render useTimeBucket (.orderByLimit other) =
      format.render useTimeBucket (.orderByLimit window) := by
  cases format with
  | timescale => exact congrArg (Payload.sql "cpu") (Timescale.statement_end same)
  | siri => exact congrArg Payload.siri (Siri.statement_end window other)

/-- A query of a kind about hosts and a window, as a database spells it. -/
structure Kind.Spelled (kind : Kind) (format : Format) (useTimeBucket : Bool) (hosts : List String)
    (window : Interval) (q : Query) : Prop where
  id : q.id = 0
  label : q.label = kind.label format.title
  description : q.description =
    match kind.timeText? window with
    | some time => q.label ++ ": " ++ time
    | none => q.label
  affinity : q.affinity = if kind.hosts = 1 then hosts.head? else none
  payload : q.payload = format.render useTimeBucket (kind.request hosts window)
  windowShown : kind ≠ .lastPoint → kind ≠ .orderByLimit →
    Shows (format.statement useTimeBucket (kind.request hosts window)) (format.timeClause window)
  /-- Where only the end of the window counts, the start is nowhere in the payload. -/
  endShown : kind = .orderByLimit → ∀ other : Interval, other.finish = window.finish →
    q.payload = format.render useTimeBucket (kind.request hosts other)
  hostsShown : hosts ≠ [] →
    Shows (format.statement useTimeBucket (kind.request hosts window)) (format.hostClause hosts)

namespace Kind

theorem request_timeText? (kind : Kind) (hosts : List String) (window : Interval) :
    (kind.request hosts window).timeText? = kind.timeText? window := by
  cases kind <;> rfl

theorem request_hosts {kind : Kind} {hosts : List String} (count : hosts.length = kind.hosts)
    (window : Interval) : (kind.request hosts window).hosts = hosts := by
  cases kind with
  | singleGroupby _ _ _ | maxAll _ | highCpu _ => rfl
  | doubleGroupby _ | lastPoint | orderByLimit => exact (List.length_eq_zero_iff.mp count).symm

theorem request_window? {kind : Kind} (timed : kind ≠ .lastPoint) (hosts : List String)
    (window : Interval) : (kind.request hosts window).window? = some window := by
  cases kind with
  | lastPoint => exact absurd rfl timed
  | singleGroupby _ _ _ | maxAll _ | doubleGroupby _ | highCpu _ | orderByLimit => rfl

theorem request_bounded {kind : Kind} (bounded : kind ≠ .orderByLimit) (hosts : List String)
    (window w : Interval) : kind.request hosts window ≠ .orderByLimit w := by
  cases kind with
  | orderByLimit => exact absurd rfl bounded
  | singleGroupby _ _ _ | maxAll _ | doubleGroupby _ | highCpu _ | lastPoint => exact nofun

theorem onlyHost_head {kind : Kind} {hosts : List String} (count : hosts.length = kind.hosts)
    (window : Interval) : (kind.request hosts window).onlyHost? =
      if kind.hosts = 1 then hosts.head? else none := by
  rw [Request.onlyHost?, request_hosts count, ← count]
  match hosts with
  | [] => rfl
  | [_] => rfl
  | _ :: _ :: more => simp

end Kind

theorem Format.fill_spelled (format : Format) (useTimeBucket : Bool) {kind : Kind}
    {hosts : List String} (count : hosts.length = kind.hosts) (window : Interval) {q : Query}
    (new : q.id = 0) :
    kind.Spelled format useTimeBucket hosts window
      ((format.database useTimeBucket).fill kind (kind.request hosts window) q) := by
  have filled : (format.database useTimeBucket).fill kind (kind.request hosts window) q =
      Database.fillWith format.title (format.render useTimeBucket) kind (kind.request hosts window)
        q := by
    cases format with
    | timescale => rfl
    | siri => rfl
  rw [filled]
  have timed := kind.request_timeText? hosts window
  constructor
  · exact new
  · rfl
  · cases shown : kind.timeText? window with
    | some time => exact Database.fillWith_timed (timed.trans shown)
    | none => exact Database.fillWith_untimed (timed.trans shown)
  · exact Kind.onlyHost_head count window
  · rfl
  · intro timed bounded
    have asked := Kind.request_window? timed hosts window
    have started := Kind.request_bounded bounded hosts window
    cases format with
    | timescale => exact Timescale.statement_shows_window asked started
    | siri => exact Siri.statement_shows_window asked started
  · rintro rfl other same
    exact (format.render_end useTimeBucket same).symm
  · intro some_
    have all := Kind.request_hosts count window
    have hosted : (kind.request hosts window).hosts ≠ [] := by
      rw [all]
      exact some_
    cases format with
    | timescale =>
      have shown := Timescale.statement_shows_hosts (b := Timescale.buckets useTimeBucket) hosted
      rwa [all] at shown
    | siri =>
      have shown := Siri.statement_shows_hosts hosted
      rwa [all] at shown

namespace Generate

/-- A query about some hosts and some window that suit its kind. -/
def Suits (format : Format) (useTimeBucket : Bool) (range : Interval) (scale : Nat) (kind : Kind)
    (q : Query) : Prop :=
  ∃ numbers window, kind.Suited range scale numbers window ∧
    kind.Spelled format useTimeBucket (hostNames numbers) window q

section Workload
variable {format : Format} {useTimeBucket : Bool} {kind : Kind}

theorem generate_suits (supported : (format.database useTimeBucket).supports kind = true)
    {before after : Fleet} {q filled : Query}
    (done : (format.database useTimeBucket).generate kind q.cleared before = (.ok filled, after)) :
    Suits format useTimeBucket before.interval before.population.scale kind filled ∧
      after.interval = before.interval ∧ after.population.scale = before.population.scale := by
  obtain ⟨request, drawn, rfl⟩ := Database.generate_ok supported done
  rw [Format.database_draw format useTimeBucket supported] at drawn
  have kept := Timescale.draw_steady kind before
  rw [drawn] at kept
  obtain ⟨numbers, window, suited, rfl⟩ := Request.asked_suited (Timescale.draw_asked drawn)
  have count : (hostNames numbers).length = kind.hosts := by
    rw [hostNames, List.length_map, suited.hosts.length]
  exact ⟨⟨numbers, window, suited, format.fill_spelled useTimeBucket count window rfl⟩, kept⟩

theorem workload_suits (supported : (format.database useTimeBucket).supports kind = true)
    {count index : Nat} {q : Query} {fleet : Fleet} {qs : List Query}
    (drawn : workload (format.database useTimeBucket) kind count index q fleet = .ok qs) :
    ∀ p ∈ qs, Suits format useTimeBucket fleet.interval fleet.population.scale kind p := by
  induction count generalizing index q fleet qs with
  | zero =>
    cases drawn
    simp
  | succ count ih =>
    rw [workload] at drawn
    cases generated : (format.database useTimeBucket).generate kind q.cleared fleet with
    | mk result after =>
      rw [generated] at drawn
      cases result with
      | error e => cases drawn
      | ok query =>
        obtain ⟨suits, range, scale⟩ := generate_suits supported generated
        by_cases empty : query.label = ""
        · simp [empty] at drawn
        · simp only [if_neg empty] at drawn
          cases rest : workload (format.database useTimeBucket) kind count (index + 1) query
              after with
          | error e =>
            rw [rest] at drawn
            cases drawn
          | ok more =>
            rw [rest] at drawn
            cases drawn
            have behind := ih rest
            rw [range, scale] at behind
            exact List.forall_mem_cons.mpr ⟨suits, behind⟩

end Workload

section Steps
variable {d : Database} {kind : Kind} {id groups : Nat}

/-- The queries that went out on the way, all of them whole, and all counted. -/
structure Sent (before after : Progress) (qs : List Query) : Prop where
  fits : ∀ q ∈ qs, (Codec.encode q).length ≤ Stream.maxPayload
  bytes : after.writer.sink.accepted.toList =
    before.writer.sink.accepted.toList ++ qs.flatMap fun q => Stream.frame (Codec.encode q)
  counted : after.summary = before.summary.addAll qs

theorem sent_trans {p between after : Progress} {qs more : List Query} (first : Sent p between qs)
    (second : Sent between after more) : Sent p after (qs ++ more) where
  fits := List.forall_mem_append.mpr ⟨first.fits, second.fits⟩
  bytes := by rw [second.bytes, first.bytes, List.append_assoc, List.flatMap_append]
  counted := by rw [second.counted, first.counted, Summary.addAll, Summary.addAll, Summary.addAll,
    List.foldl_append]

theorem sent_nothing {before after : Progress} (writer : after.writer = before.writer)
    (summary : after.summary = before.summary) : Sent before after [] where
  fits := by simp
  bytes := by simp [writer]
  counted := summary

theorem step_sent {index : Nat} {p after : Progress}
    (done : step d kind id groups index p = (.ok (), after)) :
    d.generate kind p.query.cleared p.fleet = (.ok after.query, after.fleet) ∧
      after.query.label ≠ "" ∧ Sent p after (shareFrom id groups index [after.query]) := by
  rw [step] at done
  cases generated : d.generate kind p.query.cleared p.fleet with
  | mk result fleet =>
    rw [generated] at done
    cases result with
    | error e => cases done
    | ok query =>
      simp only at done
      split at done
      · cases done
      · rename_i labelled
        rw [shareFrom_cons]
        split at done
        · rename_i ours
          split at done
          · cases done
          · rename_i writer wrote
            obtain ⟨fits, bytes⟩ := Stream.Writer.write_ok wrote
            cases done
            rw [if_pos ours]
            exact ⟨rfl, labelled, by simpa [shareFrom] using fits, by simpa [shareFrom] using bytes,
              rfl⟩
        · rename_i theirs
          cases done
          rw [if_neg theirs]
          exact ⟨rfl, labelled, sent_nothing rfl rfl⟩

theorem shareFrom_cons_append {α : Type} (id groups first : Nat) (x : α) (xs : List α) :
    shareFrom id groups first (x :: xs) =
      shareFrom id groups first [x] ++ shareFrom id groups (first + 1) xs := by
  rw [shareFrom_cons, shareFrom_cons]
  split
  · rfl
  · rfl

/-- Steps that succeed draw a workload and send their share of it. -/
theorem steps_sent {count index : Nat} {p after : Progress}
    (done : steps d kind id groups count index p = (.ok (), after)) :
    ∃ qs, workload d kind count index p.query p.fleet = .ok qs ∧
      Sent p after (shareFrom id groups index qs) := by
  induction count generalizing index p with
  | zero =>
    cases done
    exact ⟨[], rfl, sent_nothing rfl rfl⟩
  | succ count ih =>
    rw [steps] at done
    cases stepped : step d kind id groups index p with
    | mk result between =>
      rw [stepped] at done
      cases result with
      | error e => cases done
      | ok _ =>
        obtain ⟨generated, labelled, first⟩ := step_sent stepped
        obtain ⟨qs, drawn, rest⟩ := ih done
        refine ⟨between.query :: qs, ?_, ?_⟩
        · simp only [workload, generated, if_neg labelled, drawn, Except.map]
        · rw [shareFrom_cons_append]
          exact sent_trans first rest

theorem write_sent {fleet : Fleet} {queries : Nat} {sink after : Sink} {s : Summary}
    (done : write d kind fleet queries id groups sink = (.ok s, after)) :
    d.supports kind = true ∧ ∃ qs, workload d kind queries 0 d.emptyQuery fleet = .ok qs ∧
      (∀ q ∈ share id groups qs, (Codec.encode q).length ≤ Stream.maxPayload) ∧
      after.accepted.toList = sink.accepted.toList ++ Stream.encoded (share id groups qs) ∧
      s = ({} : Summary).addAll (share id groups qs) := by
  rw [write] at done
  split at done
  · rename_i supported
    split at done
    · cases done
    · rename_i writer started
      split at done
      · cases done
      · rename_i p stepped
        split at done
        · cases done
        · cases done
          obtain ⟨qs, drawn, fits, bytes, counted⟩ := steps_sent stepped
          have identified := Stream.Writer.send_ok started
          refine ⟨supported, qs, drawn, fits, ?_, counted⟩
          rw [bytes]
          simp only
          rw [identified, Stream.encoded, List.append_assoc]
          rfl
  · cases done

end Steps

theorem addAll_one_label {qs : List Query} {label : String} (labelled : ∀ q ∈ qs, q.label = label) :
    (({} : Summary).addAll qs).byLabel = if qs = [] then [] else [(label, qs.length)] := by
  induction qs using List.reverseRecOn with
  | nil => rfl
  | append_singleton qs q ih =>
    have before := ih fun p member => labelled p (List.mem_append_left _ member)
    have last := labelled q (by simp)
    have step : (({} : Summary).addAll (qs ++ [q])).byLabel =
        (({} : Summary).addAll qs).byLabel.count 1 q.label := by
      rw [Summary.addAll, List.foldl_append]
      rfl
    rw [step, before, last]
    by_cases empty : qs = []
    · subst empty
      rfl
    · simp [empty, Table.count, Table.alter]

theorem title_nonempty (format : Format) : format.title ≠ "" := by
  cases format with
  | timescale => decide
  | siri => decide

/-- What is written for a configuration, if it can be written. Every query is about hosts and a
window that suit the kind, spelled by the database and by nothing else; they all have one label, and
the summary counts them under it. -/
theorem queries_suit_their_kind (c : Config) {sink after : Sink} {s : Summary}
    (ran : run c sink = (.ok s, after)) :
    ∃ (kind : Kind) (range : Interval) (qs : List Query), (c.kindTag, kind) ∈ Kind.registry ∧
      range.start = c.start.toNanos ∧ range.finish = c.finish.toNanos ∧
      after.accepted.toList = sink.accepted.toList ++ Stream.encoded qs ∧
      Stream.Carries (Stream.encoded qs) qs ∧
      (∀ q ∈ qs, Suits c.format c.useTimeBucket range c.scale kind q) ∧
      kind.label c.format.title ≠ "" ∧ s.written = qs.length ∧
      s.byLabel = if qs = [] then [] else [(kind.label c.format.title, s.written)] := by
  rw [run] at ran
  split at ran
  · cases ran
  · rename_i kind fleet ready
    obtain ⟨-, member, first, last, population⟩ := prepare_eq_ok.mp ready
    obtain ⟨supported, qs, drawn, fits, bytes, rfl⟩ := write_sent ran
    have scale : fleet.population.scale = c.scale := by
      rw [population]
      rfl
    have suits : ∀ q ∈ share c.groupId c.groups qs,
        Suits c.format c.useTimeBucket fleet.interval c.scale kind q := by
      intro q ours
      rw [← scale]
      exact workload_suits supported drawn q (mem_share ours)
    have labelled : ∀ q ∈ share c.groupId c.groups qs, q.label = kind.label c.format.title := by
      intro q ours
      obtain ⟨numbers, window, -, spelled⟩ := suits q ours
      exact spelled.label
    have counted := Summary.addAll_written {} (share c.groupId c.groups qs)
    refine ⟨kind, fleet.interval, share c.groupId c.groups qs, member, first, last, bytes,
      Stream.encoded_carries fits, suits, kind.label_nonempty (title_nonempty c.format),
      counted.trans (Nat.zero_add _), ?_⟩
    rw [counted, addAll_one_label labelled, show ({} : Summary).written = 0 from rfl, Nat.zero_add]

def lone : Config where
  format := .timescale
  kindTag := "single-groupby-1-1-12"
  scale := 5
  seed := 3
  start := ⟨0, 0⟩
  finish := ⟨86400, 0⟩
  queries := 2
  groupId := 0
  groups := 1
  useTimeBucket := true

theorem lone_queries_suit :
    ∃ s after, run lone {} = (.ok s, after) ∧
      ∃ (kind : Kind) (range : Interval) (qs : List Query), (lone.kindTag, kind) ∈ Kind.registry ∧
        range.start = lone.start.toNanos ∧ range.finish = lone.finish.toNanos ∧
        after.accepted.toList = ({} : Sink).accepted.toList ++ Stream.encoded qs ∧
        Stream.Carries (Stream.encoded qs) qs ∧
        (∀ q ∈ qs, Suits lone.format lone.useTimeBucket range lone.scale kind q) ∧
        kind.label lone.format.title ≠ "" ∧ s.written = qs.length ∧
        s.byLabel = if qs = [] then [] else [(kind.label lone.format.title, s.written)] := by
  have counted : (run lone {}).1 =
      .ok ⟨2, [("TimescaleDB 1 cpu metric(s), random    1 hosts, random 12h by 1m", 2)]⟩ := by
    decide +kernel
  cases ran : run lone {} with
  | mk result after =>
    rw [ran] at counted
    cases counted
    exact ⟨_, after, rfl, queries_suit_their_kind lone ran⟩

end Generate

end QueryBench
