import QueryBench.Proofs.Codec
import QueryBench.Proofs.Drawing
import QueryBench.Stream.Frame

/- The queries of a workload are short. However many hosts there are and wherever the range of time
   lies, the texts of a query stay far below what a frame can carry. Lengths count characters. -/
namespace QueryBench

namespace Text

theorem size_le (s : String) : size s ≤ 4 * s.length := by
  induction s using String.push_induction with
  | empty => simp [size]
  | push s c ih =>
    have one := c.utf8Size_le_four
    simp only [size, String.utf8ByteSize_push, String.length_push] at ih ⊢
    omega

theorem length_digits_le (width n : Nat) {size : Nat} (positive : 0 < size) (few : n < 10 ^ size) :
    (digits width n).length ≤ width + size := by
  have short : (toString n).length ≤ size := (Nat.length_repr_le_iff positive).mpr few
  rw [digits, padLeft, String.length_append, String.length_ofList, List.length_replicate]
  omega

theorem length_intercalate_le (separator : String) {texts : List String} {n : Nat}
    (short : ∀ text ∈ texts, text.length ≤ n) :
    (String.intercalate separator texts).length ≤ texts.length * (n + separator.length) := by
  induction texts with
  | nil => simp
  | cons text texts ih =>
    have first := short text List.mem_cons_self
    have rest := ih fun t member => short t (List.mem_cons_of_mem _ member)
    rw [List.length_cons, Nat.succ_mul]
    by_cases last : texts = []
    · subst texts
      rw [String.intercalate_singleton]
      omega
    · rw [String.intercalate_cons_of_ne_nil last, String.length_append, String.length_append]
      omega

end Text

namespace Codec

/-- A query whose texts have at most so many characters each. -/
structure Short (n : Nat) (q : Query) : Prop where
  label : q.label.length ≤ n
  description : q.description.length ≤ n
  affinity : ∀ s, q.affinity = some s → s.length ≤ n
  payload : ∀ s ∈ payloadTexts q.payload, s.length ≤ n

theorem length_encodeText_le (s : String) : (encodeText s).length ≤ 4 * s.length + 10 := by
  have size := Text.size_le s
  have packed := Packed.length_encode_le (Text.bytes s).length
  rw [← Text.length_bytes] at size
  rw [encodeText_eq, List.length_append]
  split
  · rw [List.length_singleton]
    omega
  · rw [List.length_cons]
    omega

theorem length_encode_short {n : Nat} {q : Query} (short : Short n q) :
    (encode q).length ≤ 20 * n + 100 := by
  have id := Packed.length_encode_le q.id.toNat
  have label := length_encodeText_le q.label
  have description := length_encodeText_le q.description
  have affinity : (encodeOption q.affinity).length ≤ 4 * n + 11 := by
    cases present : q.affinity with
    | none => simp [encodeOption]
    | some s =>
      have bound := short.affinity s present
      have text := length_encodeText_le s
      rw [encodeOption, List.length_cons]
      omega
  have payload : (encodePayload q.payload).length ≤ 8 * n + 21 := by
    have texts := short.payload
    cases stored : q.payload with
    | empty => simp [encodePayload]
    | sql hypertable statement =>
      rw [stored] at texts
      have first := texts hypertable (by simp [payloadTexts])
      have second := texts statement (by simp [payloadTexts])
      have front := length_encodeText_le hypertable
      have back := length_encodeText_le statement
      rw [encodePayload, List.cons_append, List.length_cons, List.length_append]
      omega
    | siri statement =>
      rw [stored] at texts
      have first := texts statement (by simp [payloadTexts])
      have text := length_encodeText_le statement
      rw [encodePayload, List.length_cons]
      omega
  have ours := short.label
  have theirs := short.description
  rw [length_encode]
  omega

end Codec

theorem Date.ofEpochDay_small {n : Int} (lower : -200000 ≤ n) (upper : n ≤ 200000) :
    0 ≤ (ofEpochDay n).year ∧ (ofEpochDay n).year ≤ 9999 ∧ (ofEpochDay n).month < 10 ^ 6 ∧
      (ofEpochDay n).day < 10 ^ 6 := by
  have leap : ∀ p : Prop, [Decidable p] → 0 ≤ (if p then (1 : Int) else 0) ∧
      (if p then (1 : Int) else 0) ≤ 1 := by
    intro p _
    split <;> decide
  have month : ∀ m : Nat, m < 5000 → (if m < 10 then m + 3 else m - 9) < 10 ^ 6 := by
    intro m few
    split <;> omega
  have era : 3 ≤ (n + 719468) / 146097 ∧ (n + 719468) / 146097 ≤ 7 := by omega
  have dayOfEra : ((n + 719468) % 146097).toNat < 146097 := by omega
  simp only [ofEpochDay, epochShift, eraDays]
  refine ⟨Int.add_nonneg (by omega) (leap _).1,
    Int.le_trans (Int.add_le_add_left (leap _).2 _) (by omega), month _ (by omega), by omega⟩

namespace Moment
variable {nanos : Int}

theorem length_dateText_le (lower : -0x8000000000000000 ≤ nanos)
    (upper : nanos < 0x8000000000000000) : (ofNanos nanos).dateText.length ≤ 40 := by
  have days : -200000 ≤ (ofNanos nanos).seconds / 86400 ∧
      (ofNanos nanos).seconds / 86400 ≤ 200000 := by
    simp only [ofNanos, nanosPerSecond]
    omega
  obtain ⟨positive, year, month, day⟩ := Date.ofEpochDay_small days.1 days.2
  have years : (ofNanos nanos).date.year.toNat < 10 ^ 4 := by
    simp only [date]
    omega
  have yearText := Text.length_digits_le 4 _ (by decide) years
  have monthText := Text.length_digits_le 2 (ofNanos nanos).date.month (by decide) month
  have dayText := Text.length_digits_le 2 (ofNanos nanos).date.day (by decide) day
  have year : Moment.yearText (ofNanos nanos).date.year =
      Text.digits 4 (ofNanos nanos).date.year.toNat := if_pos ⟨positive, year⟩
  rw [dateText, year]
  simp only [String.length_append]
  have dash : "-".length = 1 := rfl
  omega

theorem length_clockText_le (nanos : Int) : (ofNanos nanos).clockText.length ≤ 20 := by
  have second : ((ofNanos nanos).seconds % 86400).toNat < 86400 := by omega
  have fraction : (ofNanos nanos).nanos / nanosPerSecond = 0 := by
    simp only [ofNanos, nanosPerSecond]
    omega
  simp only [clockText, fraction]
  generalize ((ofNanos nanos).seconds % 86400).toNat = n at second ⊢
  have hours : n / 3600 < 10 ^ 2 := by omega
  have minutes : n / 60 % 60 < 10 ^ 2 := by omega
  have seconds : n % 60 + 0 < 10 ^ 2 := by omega
  have hour := Text.length_digits_le 2 _ (by decide) hours
  have minute := Text.length_digits_le 2 _ (by decide) minutes
  have rest := Text.length_digits_le 2 _ (by decide) seconds
  have colon : ":".length = 1 := rfl
  simp only [String.length_append]
  omega

theorem length_fractionText_le (m : Moment) : m.fractionText.length ≤ 20 := by
  have whole : m.nanos % nanosPerSecond < 10 ^ 9 := Nat.mod_lt _ (by decide)
  have point : ".".length = 1 := rfl
  simp only [fractionText]
  generalize m.nanos % nanosPerSecond = n at whole ⊢
  have millis : n / 1000000 < 10 ^ 9 := by omega
  have micros : n / 1000 < 10 ^ 9 := by omega
  have short := Text.length_digits_le 3 _ (by decide) millis
  have middle := Text.length_digits_le 6 _ (by decide) micros
  have long := Text.length_digits_le 9 _ (by decide) whole
  split
  · decide
  · split
    · rw [String.length_append]
      omega
    · split <;> rw [String.length_append] <;> omega

theorem length_render_le (lower : -0x8000000000000000 ≤ nanos)
    (upper : nanos < 0x8000000000000000) (between after : String) :
    ((ofNanos nanos).render between after).length ≤ between.length + after.length + 80 := by
  have date := length_dateText_le lower upper
  have clock := length_clockText_le nanos
  have fraction := length_fractionText_le (ofNanos nanos)
  simp only [render, String.length_append]
  omega

end Moment

namespace Interval

theorem length_timeText_le (i : Interval) (nanos : Int) (after : i.start ≤ nanos)
    (before : nanos ≤ i.finish) : (timeText nanos).length ≤ 82 := by
  have lower := i.lower
  have upper := i.upper
  exact Moment.length_render_le (by omega) (by omega) "T" "Z"

theorem length_startText_le (i : Interval) : i.startText.length ≤ 82 :=
  i.length_timeText_le i.start (Int.le_refl _) i.ordered

theorem length_finishText_le (i : Interval) : i.finishText.length ≤ 82 :=
  i.length_timeText_le i.finish i.ordered (Int.le_refl _)

end Interval

def Request.metrics : Request → List String
  | .singleGroupby metrics _ _ | .doubleGroupby metrics _ => metrics
  | .maxAll _ _ | .highCpu _ _ | .lastPoint | .orderByLimit _ => []

/-- A request for a few hosts and metrics with short names. -/
structure Request.Small (r : Request) : Prop where
  hosts : r.hosts.length ≤ 8
  host : ∀ name ∈ r.hosts, name.length ≤ 30
  metrics : r.metrics.length ≤ 10
  metric : ∀ name ∈ r.metrics, name.length ≤ 20

def Kind.numbers : Kind → List Nat
  | .singleGroupby metrics hosts hours => [metrics, hosts, hours]
  | .maxAll hosts | .highCpu hosts => [hosts]
  | .doubleGroupby metrics => [metrics]
  | .lastPoint | .orderByLimit => []

def Kind.hosts : Kind → Nat
  | .singleGroupby _ hosts _ | .maxAll hosts | .highCpu hosts => hosts
  | .doubleGroupby _ | .lastPoint | .orderByLimit => 0

def Kind.Listed (kind : Kind) : Prop := kind ∈ registry.map Prod.snd

theorem Kind.listed_hosts {kind : Kind} (listed : kind.Listed) : kind.hosts ≤ 8 :=
  (show ∀ k ∈ registry.map Prod.snd, k.hosts ≤ 8 by decide) kind listed

theorem Kind.listed_numbers {kind : Kind} (listed : kind.Listed) : ∀ n ∈ kind.numbers, n ≤ 12 :=
  (show ∀ k ∈ registry.map Prod.snd, ∀ n ∈ k.numbers, n ≤ 12 by decide) kind listed

theorem Duration.length_hours_le {hours : Nat} (few : hours ≤ 12) :
    (ofHours hours).toText.length ≤ 10 :=
  (show ∀ n ≤ 12, (ofHours n).toText.length ≤ 10 by decide) hours few

theorem Kind.listed_label {kind : Kind} (listed : kind.Listed) (title : String) :
    (kind.label title).length ≤ title.length + 100 := by
  have small := listed_numbers listed
  have digits : ∀ n ≤ 12, (toString n).length ≤ 2 := fun n few =>
    (Nat.length_repr_le_iff (by decide)).mpr (by omega)
  have padded : ∀ n ≤ 12, (Text.padLeft 4 ' ' (toString n)).length ≤ 6 := by
    intro n few
    have two := digits n few
    rw [Text.padLeft, String.length_append, String.length_ofList, List.length_replicate]
    omega
  cases kind with
  | singleGroupby metrics hosts hours =>
    have first := digits metrics (small metrics (by simp [numbers]))
    have second := padded hosts (small hosts (by simp [numbers]))
    have third := Duration.length_hours_le (small hours (by simp [numbers]))
    unfold label
    simp only [← String.length_toList, String.toList_append, List.length_append,
      String.reduceToList] at *
    simp only [List.length_cons, List.length_nil]
    omega
  | maxAll hosts =>
    have first := padded hosts (small hosts (by simp [numbers]))
    have second : maxAllWindow.toText.length ≤ 10 := Duration.length_hours_le (by decide)
    unfold label
    simp only [← String.length_toList, String.toList_append, List.length_append,
      String.reduceToList] at *
    simp only [List.length_cons, List.length_nil]
    omega
  | doubleGroupby metrics =>
    have first := digits metrics (small metrics (by simp [numbers]))
    have second : doubleGroupbyWindow.toText.length ≤ 10 := Duration.length_hours_le (by decide)
    unfold label
    simp only [← String.length_toList, String.toList_append, List.length_append,
      String.reduceToList] at *
    simp only [List.length_cons, List.length_nil]
    omega
  | highCpu hosts =>
    have first := digits hosts (small hosts (by simp [numbers]))
    cases hosts with
    | zero =>
      unfold label
      simp only [← String.length_toList, String.toList_append, List.length_append,
        String.reduceToList]
      simp only [List.length_cons, List.length_nil]
      omega
    | succ more =>
      unfold label
      simp only [← String.length_toList, String.toList_append, List.length_append,
        String.reduceToList] at *
      simp only [List.length_cons, List.length_nil]
      omega
  | lastPoint | orderByLimit =>
    unfold label
    simp only [← String.length_toList, String.toList_append, List.length_append,
      String.reduceToList]
    simp only [List.length_cons, List.length_nil]
    omega

theorem Metric.first_small {count : Nat} {metrics : List String}
    (known : first count = .ok metrics) :
    metrics.length ≤ 10 ∧ ∀ name ∈ metrics, name.length ≤ 20 := by
  have short : ∀ name ∈ all, name.length ≤ 20 := by decide
  unfold first at known
  split at known
  · cases known
  · split at known
    · cases known
    · cases known
      exact ⟨List.length_take_le' _ _, fun name member => short name (List.mem_of_mem_take member)⟩

theorem Workload.pickedHosts_small {scale count : Nat} {names : List String}
    (scaled : scale < UInt64.size) (few : count ≤ 8) (picked : PickedHosts scale count names) :
    names.length ≤ 8 ∧ ∀ name ∈ names, name.length ≤ 30 := by
  obtain ⟨numbers, distinct, rfl⟩ := pickedHosts_named picked
  constructor
  · rw [List.length_map, distinct.length]
    exact few
  · intro name member
    obtain ⟨i, inside, rfl⟩ := List.mem_map.mp member
    have bound : i < 10 ^ 20 :=
      Nat.lt_trans (Nat.lt_trans (distinct.below i inside) scaled) (by decide)
    have digits : (toString i).length ≤ 20 := (Nat.length_repr_le_iff (by decide)).mpr bound
    have stem : ("host" ++ "_").length = 5 := rfl
    rw [Sample.nameOf, String.length_append]
    omega

theorem Request.asked_small {range : Interval} {scale : Nat} {kind : Kind} {request : Request}
    (scaled : scale < UInt64.size) (listed : kind.Listed)
    (asked : request.Asked range scale kind) : request.Small := by
  have few := Kind.listed_hosts listed
  cases asked with
  | singleGroupby first picked placed =>
    obtain ⟨hosts, host⟩ := Workload.pickedHosts_small scaled few picked
    obtain ⟨metrics, metric⟩ := Metric.first_small first
    exact ⟨hosts, host, metrics, metric⟩
  | maxAll picked placed =>
    obtain ⟨hosts, host⟩ := Workload.pickedHosts_small scaled few picked
    exact ⟨hosts, host, by simp [metrics], by simp [metrics]⟩
  | doubleGroupby first placed =>
    obtain ⟨metrics, metric⟩ := Metric.first_small first
    exact ⟨by simp [hosts], by simp [hosts], metrics, metric⟩
  | highCpu hosted picked placed =>
    obtain ⟨hosts, host⟩ := Workload.pickedHosts_small scaled few picked
    exact ⟨hosts, host, by simp [metrics], by simp [metrics]⟩
  | highCpuAll placed => exact ⟨by simp [hosts], by simp [hosts], by simp [metrics], by simp [metrics]⟩
  | lastPoint => exact ⟨by simp [hosts], by simp [hosts], by simp [metrics], by simp [metrics]⟩
  | orderByLimit placed =>
    exact ⟨by simp [hosts], by simp [hosts], by simp [metrics], by simp [metrics]⟩

theorem Text.length_list_le (separator : String) {texts : List String} {f : String → String}
    {count n : Nat} (few : texts.length ≤ count) (short : ∀ text ∈ texts, (f text).length ≤ n) :
    (String.intercalate separator (texts.map f)).length ≤ count * (n + separator.length) := by
  have every : ∀ text ∈ texts.map f, text.length ≤ n := by
    simpa using short
  have joined := length_intercalate_le separator every
  rw [List.length_map] at joined
  exact Nat.le_trans joined (Nat.mul_le_mul_right _ few)

namespace Timescale

theorem length_hostClause_le {request : Request} (small : request.Small) :
    (hostClause request.hosts).length ≤ 300 := by
  have joined := Text.length_list_le "," (f := quoted) (n := 32) small.hosts
    fun name member => by
      have short := small.host name member
      simp only [quoted, ← String.length_toList, String.toList_append, List.length_append,
        String.reduceToList] at short ⊢
      simp only [List.length_cons, List.length_nil]
      omega
  simp only [hostClause, ← String.length_toList, String.toList_append, List.length_append,
    String.reduceToList] at joined ⊢
  simp only [List.length_cons, List.length_nil] at joined ⊢
  omega

theorem length_sqlTime_le (i : Interval) {nanos : Int} (after : i.start ≤ nanos)
    (before : nanos ≤ i.finish) : (sqlTime nanos).length ≤ 90 := by
  have lower := i.lower
  have upper := i.upper
  have text := Moment.length_render_le (Int.le_trans lower after) (by omega) " " " +0000"
  simp only [sqlTime, quoted, Moment.toSqlText, ← String.length_toList, String.toList_append,
    List.length_append, String.reduceToList] at text ⊢
  simp only [List.length_cons, List.length_nil] at text ⊢
  omega

theorem length_timeClause_le (window : Interval) : (timeClause window).length ≤ 210 := by
  have start := length_sqlTime_le window (Int.le_refl _) window.ordered
  have finish := length_sqlTime_le window window.ordered (Int.le_refl _)
  simp only [timeClause, ← String.length_toList, String.toList_append, List.length_append,
    String.reduceToList] at start finish ⊢
  simp only [List.length_cons, List.length_nil]
  omega

theorem length_columns_le {metrics : List String} (few : metrics.length ≤ 10)
    (known : ∀ name ∈ metrics, name.length ≤ 20) {f : String → String}
    (short : ∀ name, (f name).length ≤ 2 * name.length + 20) :
    (columns f metrics).length ≤ 620 :=
  Text.length_list_le ", " (n := 60) few fun name member =>
    Nat.le_trans (short name) (by have := known name member; omega)

theorem length_names_le (name : String) :
    (highest name).length ≤ 2 * name.length + 20 ∧ (mean name).length ≤ 2 * name.length + 20 ∧
      (meanName name).length ≤ 2 * name.length + 20 := by
  simp only [highest, mean, meanName, ← String.length_toList, String.toList_append,
    List.length_append, String.reduceToList]
  simp only [List.length_cons, List.length_nil]
  omega

theorem length_buckets_le (useTimeBucket : Bool) :
    (buckets useTimeBucket).minute.length ≤ 50 ∧ (buckets useTimeBucket).hour.length ≤ 50 := by
  cases useTimeBucket <;> decide

theorem length_statement_le (useTimeBucket : Bool) {request : Request} (small : request.Small) :
    (statement (buckets useTimeBucket) request).length ≤ 3000 := by
  obtain ⟨minute, hour⟩ := length_buckets_le useTimeBucket
  have hosts := length_hostClause_le small
  cases request with
  | singleGroupby metrics hosts window =>
    have times := length_timeClause_le window
    have highs := length_columns_le small.metrics small.metric fun name => (length_names_le name).1
    unfold statement
    simp only [Request.metrics, Request.hosts, ← String.length_toList, String.toList_append,
      List.length_append, String.reduceToList] at *
    simp only [List.length_cons, List.length_nil]
    omega
  | maxAll hosts window =>
    have times := length_timeClause_le window
    have highs : (columns highest Metric.all).length ≤ 620 :=
      length_columns_le (by decide) (by decide) fun name => (length_names_le name).1
    unfold statement
    simp only [Request.hosts, ← String.length_toList, String.toList_append, List.length_append,
      String.reduceToList] at *
    simp only [List.length_cons, List.length_nil]
    omega
  | doubleGroupby metrics window =>
    have times := length_timeClause_le window
    have means := length_columns_le small.metrics small.metric fun name =>
      (length_names_le name).2.1
    have heads := length_columns_le small.metrics small.metric fun name =>
      (length_names_le name).2.2
    unfold statement
    simp only [Request.metrics, ← String.length_toList, String.toList_append, List.length_append,
      String.reduceToList] at *
    simp only [List.length_cons, List.length_nil]
    omega
  | highCpu hosts window =>
    have times := length_timeClause_le window
    unfold statement
    rw [String.length_append]
    split
    · simp only [← String.length_toList, String.toList_append, List.length_append,
        String.reduceToList] at *
      simp only [List.length_cons, List.length_nil]
      omega
    · simp only [Request.hosts, ← String.length_toList, String.toList_append,
        List.length_append, String.reduceToList] at *
      simp only [List.length_cons, List.length_nil]
      omega
  | lastPoint =>
    unfold statement
    simp only [← String.length_toList, String.reduceToList]
    simp only [List.length_cons, List.length_nil]
    omega
  | orderByLimit window =>
    have finish := length_sqlTime_le window window.ordered (Int.le_refl _)
    unfold statement
    simp only [← String.length_toList, String.toList_append, List.length_append,
      String.reduceToList] at *
    simp only [List.length_cons, List.length_nil]
    omega

end Timescale

namespace Siri

theorem length_union_le {names : List String} {count n : Nat} (few : names.length ≤ count)
    (short : ∀ name ∈ names, name.length ≤ n) : (union names).length ≤ count * (n + 5) + 2 := by
  have quoted : ∀ name ∈ names, ("`" ++ name ++ "`").length ≤ n + 2 := by
    intro name member
    have known := short name member
    simp only [← String.length_toList, String.toList_append, List.length_append,
      String.reduceToList] at known ⊢
    simp only [List.length_cons, List.length_nil]
    omega
  have joined : (String.intercalate " | " (names.map fun name => "`" ++ name ++ "`")).length ≤
      count * (n + 5) := Text.length_list_le " | " few quoted
  have open_ : "(".length = 1 := rfl
  have close : ")".length = 1 := rfl
  rw [union, String.length_append, String.length_append]
  omega

theorem length_timeClause_le (window : Interval) : (timeClause window).length ≤ 190 := by
  have start := window.length_startText_le
  have finish := window.length_finishText_le
  simp only [timeClause, ← String.length_toList, String.toList_append, List.length_append,
    String.reduceToList] at start finish ⊢
  simp only [List.length_cons, List.length_nil]
  omega

theorem length_statement_le {request : Request} (small : request.Small) :
    (statement request).length ≤ 3000 := by
  have metrics := length_union_le small.metrics small.metric
  have hosts := length_union_le small.hosts small.host
  have all : (union Metric.all).length ≤ 10 * (20 + 5) + 2 :=
    length_union_le (by decide) (by decide)
  cases request with
  | singleGroupby names hosts window =>
    have times := length_timeClause_le window
    unfold statement
    simp only [Request.metrics, Request.hosts, ← String.length_toList, String.toList_append,
      List.length_append, String.reduceToList] at *
    simp only [List.length_cons, List.length_nil]
    omega
  | maxAll hosts window =>
    have times := length_timeClause_le window
    unfold statement
    simp only [Request.hosts, ← String.length_toList, String.toList_append, List.length_append,
      String.reduceToList] at *
    simp only [List.length_cons, List.length_nil]
    omega
  | doubleGroupby names window =>
    have times := length_timeClause_le window
    unfold statement
    simp only [Request.metrics, ← String.length_toList, String.toList_append, List.length_append,
      String.reduceToList] at *
    simp only [List.length_cons, List.length_nil]
    omega
  | highCpu hosts window =>
    have times := length_timeClause_le window
    unfold statement
    rw [String.length_append, String.length_append]
    split
    · simp only [← String.length_toList, String.reduceToList] at *
      simp only [List.length_cons, List.length_nil]
      omega
    · simp only [Request.hosts, ← String.length_toList, String.toList_append,
        List.length_append, String.reduceToList] at *
      simp only [List.length_cons, List.length_nil]
      omega
  | lastPoint | orderByLimit window =>
    unfold statement
    simp only [← String.length_toList, String.toList_append, List.length_append,
      String.reduceToList] at *
    simp only [List.length_cons, List.length_nil]
    omega

end Siri

namespace Request

theorem length_timeText_le {request : Request} {time : String}
    (shown : request.timeText? = some time) : time.length ≤ 82 := by
  cases request with
  | singleGroupby metrics hosts window | maxAll hosts window | doubleGroupby metrics window
  | highCpu hosts window =>
    cases shown
    exact window.length_startText_le
  | orderByLimit window =>
    cases shown
    exact window.length_finishText_le
  | lastPoint => cases shown

theorem onlyHost?_mem {request : Request} {host : String} (only : request.onlyHost? = some host) :
    host ∈ request.hosts := by
  unfold onlyHost? at only
  split at only
  · rename_i single
    cases only
    rw [single]
    exact List.mem_singleton.mpr rfl
  · cases only

end Request

theorem Database.fillWith_short {title : String} {render : Request → Payload} {kind : Kind}
    {request : Request} (titled : title.length ≤ 20) (listed : kind.Listed) (small : request.Small)
    (rendered : ∀ s ∈ Codec.payloadTexts (render request), s.length ≤ 3000) (q : Query) :
    Codec.Short 3000 (fillWith title render kind request q) := by
  have label := kind.listed_label listed title
  refine ⟨Nat.le_trans label (by omega), ?_, ?_, rendered⟩
  · cases shown : request.timeText? with
    | none =>
      rw [fillWith_untimed shown]
      omega
    | some time =>
      have short := Request.length_timeText_le shown
      have colon : ": ".length = 2 := rfl
      rw [fillWith_timed shown, String.length_append, String.length_append]
      omega
  · intro host only
    exact Nat.le_trans (small.host host (Request.onlyHost?_mem only)) (by decide)

theorem Format.fill_short (format : Format) (useTimeBucket : Bool) {kind : Kind}
    (listed : kind.Listed) {request : Request} (small : request.Small) (q : Query) :
    Codec.Short 3000 ((format.database useTimeBucket).fill kind request q) := by
  cases format with
  | timescale =>
    refine Database.fillWith_short (by decide) listed small ?_ q
    intro s member
    simp only [Timescale.render, Codec.payloadTexts, List.mem_cons, List.not_mem_nil,
      or_false] at member
    rcases member with rfl | rfl
    · decide
    · exact Timescale.length_statement_le useTimeBucket small
  | siri =>
    refine Database.fillWith_short (by decide) listed small ?_ q
    intro s member
    simp only [Siri.render, Codec.payloadTexts, List.mem_cons, List.not_mem_nil,
      or_false] at member
    rw [member]
    exact Siri.length_statement_le small

/-- A query of a workload always fits into a frame; the hosts are as many as before. -/
theorem Format.generate_fits {format : Format} {useTimeBucket : Bool} {kind : Kind}
    {before after : Fleet} {q filled : Query}
    (supported : (format.database useTimeBucket).supports kind = true) (listed : kind.Listed)
    (scaled : before.population.scale < UInt64.size)
    (done : (format.database useTimeBucket).generate kind q before = (.ok filled, after)) :
    (Codec.encode filled).length ≤ Stream.maxPayload ∧ after.population.scale < UInt64.size := by
  obtain ⟨request, drawn, rfl⟩ := Database.generate_ok supported done
  rw [database_draw format useTimeBucket supported] at drawn
  have kept := (Timescale.draw_steady kind before).2
  rw [drawn] at kept
  have small := Request.asked_small scaled listed (Timescale.draw_asked drawn)
  have size := Codec.length_encode_short (format.fill_short useTimeBucket listed small q)
  exact ⟨Nat.le_trans size (by decide), kept ▸ scaled⟩

end QueryBench
