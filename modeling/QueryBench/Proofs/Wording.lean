import QueryBench.Proofs.Replay
import QueryBench.Proofs.Spelling

/- Labels that tell queries apart. A length of time is spelled by counts of units, the greatest first,
   and no two units share a name, so the text gives the counts and they give the length. Likewise a
   label gives the database, the sort of query and its numbers, for the texts between the numbers are
   fixed and none of them goes on with a digit. -/
namespace QueryBench
open Latency Text

namespace Duration

def Part.endings (p : Part) : List String := if p.plural then [p.name, p.name ++ "s"] else [p.name]

theorem Part.text_ending (p : Part) (count : Nat) :
    ∃ ending ∈ p.endings, p.text count = toString count ++ ending := by
  unfold text endings
  by_cases several : p.plural = true ∧ 1 < count
  · rw [if_pos several, if_pos several.1]
    exact ⟨p.name ++ "s", by simp, String.append_assoc⟩
  · rw [if_neg several]
    refine ⟨p.name, ?_, String.append_empty⟩
    split <;> simp

/-- Units that can be told apart behind a count, and in a list with blanks between its words. -/
structure Apart (ps : List Part) : Prop where
  stops : ∀ p ∈ ps, ∀ ending ∈ p.endings, Stops ending
  unbroken : ∀ p ∈ ps, ∀ ending ∈ p.endings, ' ' ∉ ending.toList
  differ : ps.Pairwise fun p q => ∀ ending ∈ p.endings, ending ∉ q.endings

theorem apart_parts : Apart parts := by
  constructor
  · decide
  · decide
  · decide

theorem apart_tail {p : Part} {ps : List Part} (apart : Apart (p :: ps)) : Apart ps where
  stops q member := apart.stops q (List.mem_cons_of_mem p member)
  unbroken q member := apart.unbroken q (List.mem_cons_of_mem p member)
  differ := (List.pairwise_cons.mp apart.differ).2

theorem text_apart {ps : List Part} (apart : Apart ps) {p q : Part} (member : p ∈ ps)
    (member' : q ∈ ps) {m n : Nat} (same : p.text m = q.text n) :
    m = n ∧ ∃ ending ∈ p.endings, ending ∈ q.endings := by
  obtain ⟨ending, inside, text⟩ := p.text_ending m
  obtain ⟨ending', inside', text'⟩ := q.text_ending n
  rw [text, text'] at same
  obtain ⟨count, rfl⟩ := number_append (apart.stops p member ending inside)
    (apart.stops q member' ending' inside') same
  exact ⟨count, ending, inside, inside'⟩

theorem mem_words {ps : List Part} {n : Nat} {word : String} (member : word ∈ words ps n) :
    ∃ p ∈ ps, ∃ count, count ≠ 0 ∧ word = p.text count := by
  induction ps generalizing n with
  | nil => cases member
  | cons p ps ih =>
    rw [words] at member
    split at member
    · obtain ⟨q, inside, found⟩ := ih member
      exact ⟨q, List.mem_cons_of_mem p inside, found⟩
    · rename_i some_
      rcases List.mem_cons.mp member with rfl | later
      · exact ⟨p, List.mem_cons_self, _, some_, rfl⟩
      · obtain ⟨q, inside, found⟩ := ih later
        exact ⟨q, List.mem_cons_of_mem p inside, found⟩

def leftOver : List Part → Nat → Nat
  | [], n => n
  | p :: ps, n => leftOver ps (n % p.nanos)

theorem leftOver_parts (n : Nat) : leftOver parts n = 0 := by
  simp only [parts, leftOver, Nat.mod_one]

theorem words_cons (p : Part) (ps : List Part) (n : Nat) :
    words (p :: ps) n =
      (if n / p.nanos = 0 then [] else [p.text (n / p.nanos)]) ++ words ps (n % p.nanos) := by
  rw [words]
  split
  · rename_i none_
    have kept : n % p.nanos = n := by
      have whole := Nat.div_add_mod n p.nanos
      rw [none_, Nat.mul_zero, Nat.zero_add] at whole
      exact whole
    rw [kept, List.nil_append]
  · rfl

/-- The words give the counts: a word names its unit, and no later unit has that name. -/
theorem words_injective {ps : List Part} (apart : Apart ps) {m n : Nat}
    (same : words ps m = words ps n) (left : leftOver ps m = leftOver ps n) : m = n := by
  induction ps generalizing m n with
  | nil => exact left
  | cons p ps ih =>
    have later : ∀ count k, p.text count ∉ words ps k := by
      intro count k member
      obtain ⟨q, inside, count', -, text⟩ := mem_words member
      obtain ⟨-, ending, ours, theirs⟩ :=
        text_apart apart List.mem_cons_self (List.mem_cons_of_mem p inside) text
      exact (List.pairwise_cons.mp apart.differ).1 q inside ending ours theirs
    have counts : m / p.nanos = n / p.nanos ∧
        words ps (m % p.nanos) = words ps (n % p.nanos) := by
      rw [words_cons, words_cons] at same
      by_cases none_ : m / p.nanos = 0
      · by_cases none_' : n / p.nanos = 0
        · rw [if_pos none_, if_pos none_'] at same
          exact ⟨none_.trans none_'.symm, same⟩
        · rw [if_pos none_, if_neg none_', List.nil_append] at same
          exact absurd (same ▸ List.mem_cons_self) (later (n / p.nanos) (m % p.nanos))
      · by_cases none_' : n / p.nanos = 0
        · rw [if_neg none_, if_pos none_', List.nil_append] at same
          exact absurd (same ▸ List.mem_cons_self) (later (m / p.nanos) (n % p.nanos))
        · rw [if_neg none_, if_neg none_'] at same
          obtain ⟨text, rest⟩ := List.cons.inj same
          exact ⟨(text_apart apart List.mem_cons_self List.mem_cons_self text).1, rest⟩
    have rest := ih (apart_tail apart) counts.2 left
    rw [← Nat.div_add_mod m p.nanos, ← Nat.div_add_mod n p.nanos, counts.1, rest]

theorem words_unbroken {n : Nat} : ∀ word ∈ words parts n, ' ' ∉ word.toList := by
  intro word member blank
  obtain ⟨p, inside, count, -, rfl⟩ := mem_words member
  obtain ⟨ending, known, text⟩ := p.text_ending count
  rw [text, String.toList_append] at blank
  rcases List.mem_append.mp blank with digit | behind
  · have isDigit := number_digits count ' ' digit
    revert isDigit
    decide
  · exact apart_parts.unbroken p inside ending known behind

theorem blank_separator : " ".toList = [' '] := rfl

theorem words_nonempty {n : Nat} (positive : n ≠ 0) : words parts n ≠ [] := by
  intro none_
  have zero : words parts 0 = [] := by decide
  have left := (leftOver_parts n).trans (leftOver_parts 0).symm
  exact positive (words_injective apart_parts (none_.trans zero.symm) left)

/-- No other length is spelled like zero, as every count that is spelled is more than that. -/
theorem toText_nonzero {d : Duration} (positive : d.nanos ≠ 0) : d.toText ≠ "0s" := by
  intro spelled
  rw [toText, if_neg positive] at spelled
  have single : words parts d.nanos = ["0s"] := by
    refine intercalate_injective blank_separator words_unbroken ?_
      (words_nonempty positive) (by simp) spelled
    decide
  obtain ⟨p, inside, count, some_, text⟩ := mem_words (single ▸ List.mem_cons_self)
  obtain ⟨ending, known, text'⟩ := p.text_ending count
  have stops : Stops "s" := by decide
  obtain ⟨zero, -⟩ := number_append (m := 0) stops (apart_parts.stops p inside ending known)
    (text.trans text')
  exact some_ zero.symm

theorem toText_injective {d e : Duration} (same : d.toText = e.toText) : d = e := by
  by_cases zero : d.nanos = 0
  · by_cases zero' : e.nanos = 0
    · cases d
      cases e
      exact congrArg mk (zero.trans zero'.symm)
    · exact absurd (same.symm.trans (if_pos zero)) (toText_nonzero zero')
  · by_cases zero' : e.nanos = 0
    · exact absurd (same.trans (if_pos zero')) (toText_nonzero zero)
    · rw [toText, toText, if_neg zero, if_neg zero'] at same
      have words := intercalate_injective blank_separator words_unbroken words_unbroken
        (words_nonempty zero) (words_nonempty zero') same
      have left := (leftOver_parts d.nanos).trans (leftOver_parts e.nanos).symm
      cases d
      cases e
      exact congrArg mk (words_injective apart_parts words left)

theorem ofHours_injective {m n : Nat} (same : ofHours m = ofHours n) : m = n := by
  have nanos : m * 3600 * nanosPerSecond = n * 3600 * nanosPerSecond := congrArg Duration.nanos same
  have second : 0 < nanosPerSecond := by decide
  have seconds := Nat.eq_of_mul_eq_mul_right second nanos
  omega

end Duration

namespace Kind

def wording (kind : Kind) : String := kind.label ""

theorem label_wording (kind : Kind) (title : String) : kind.label title = title ++ kind.wording := by
  obtain ⟨rest, spelled⟩ := kind.label_title
  rw [wording, spelled, spelled, String.empty_append]

theorem wording_singleGroupby (metrics hosts hours : Nat) :
    wording (.singleGroupby metrics hosts hours) =
      " " ++ (toString metrics ++ (" cpu metric(s), random " ++
        (padLeft 4 ' ' (toString hosts) ++ (" hosts, random " ++
          ((Duration.ofHours hours).toText ++ " by 1m"))))) := by
  simp only [wording, label, String.append_assoc, String.empty_append]

theorem wording_maxAll (hosts : Nat) :
    wording (.maxAll hosts) =
      " max of all CPU metrics, random " ++ (padLeft 4 ' ' (toString hosts) ++
        (" hosts, random " ++ (maxAllWindow.toText ++ " by 1h"))) := by
  simp only [wording, label, String.append_assoc, String.empty_append]

theorem wording_doubleGroupby (metrics : Nat) :
    wording (.doubleGroupby metrics) =
      " mean of " ++ (toString metrics ++ (" metrics, all hosts, random " ++
        (doubleGroupbyWindow.toText ++ " by 1h"))) := by
  simp only [wording, label, String.append_assoc, String.empty_append]

theorem wording_highCpu (hosts : Nat) :
    wording (.highCpu hosts) =
      " CPU over threshold, " ++ if hosts = 0 then "all hosts" else toString hosts ++ " host(s)" := by
  cases hosts with
  | zero => rfl
  | succ more => simp only [wording, label, String.append_assoc, String.empty_append]; rfl

/-- The characters by which the sorts of query can be told apart: the first few behind the blank,
unless there is a number. -/
def mark (s : String) : List Char :=
  if (s.toList.drop 1).head?.any Char.isDigit then [] else (s.toList.drop 1).take 5

def marked : Kind → List Char
  | singleGroupby _ _ _ => []
  | maxAll _ => ['m', 'a', 'x', ' ', 'o']
  | doubleGroupby _ => ['m', 'e', 'a', 'n', ' ']
  | highCpu _ => ['C', 'P', 'U', ' ', 'o']
  | lastPoint => ['l', 'a', 's', 't', ' ']
  | orderByLimit => ['m', 'a', 'x', ' ', 'c']

theorem mark_wording (kind : Kind) : mark kind.wording = kind.marked := by
  cases kind with
  | singleGroupby metrics hosts hours =>
    have digit : ((wording (.singleGroupby metrics hosts hours)).toList.drop 1).head?.any
        Char.isDigit = true := by
      rw [wording_singleGroupby, String.toList_append, String.toList_append]
      cases spelled : (toString metrics).toList with
      | nil => exact absurd spelled (number_nonempty metrics)
      | cons c rest =>
        have first := number_digits metrics c (by rw [spelled]; exact List.mem_cons_self)
        simpa using first
    rw [mark, if_pos digit]
    rfl
  | maxAll hosts =>
    rw [wording_maxAll, mark, String.toList_append]
    rfl
  | doubleGroupby metrics =>
    rw [wording_doubleGroupby, mark, String.toList_append]
    rfl
  | highCpu hosts =>
    rw [wording_highCpu, mark, String.toList_append]
    rfl
  | lastPoint => decide
  | orderByLimit => decide

theorem singleGroupby_injective {metrics hosts hours metrics' hosts' hours' : Nat}
    (same : wording (.singleGroupby metrics hosts hours) =
      wording (.singleGroupby metrics' hosts' hours')) :
    metrics = metrics' ∧ hosts = hosts' ∧ hours = hours' := by
  rw [wording_singleGroupby, wording_singleGroupby, String.append_right_inj] at same
  have metricsStop : Stops " cpu metric(s), random " := by decide
  have hostsStop : Stops " hosts, random " := by decide
  obtain ⟨metrics, same⟩ := number_append (stops_append metricsStop (by decide) _)
    (stops_append metricsStop (by decide) _) same
  rw [String.append_right_inj] at same
  obtain ⟨hosts, same⟩ := field_append (stops_append hostsStop (by decide) _)
    (stops_append hostsStop (by decide) _) same
  rw [String.append_right_inj, String.append_left_inj] at same
  exact ⟨metrics, hosts, Duration.ofHours_injective (Duration.toText_injective same)⟩

theorem maxAll_injective {hosts hosts' : Nat}
    (same : wording (.maxAll hosts) = wording (.maxAll hosts')) : hosts = hosts' := by
  rw [wording_maxAll, wording_maxAll, String.append_right_inj] at same
  have stops : Stops " hosts, random " := by decide
  exact (field_append (stops_append stops (by decide) _)
    (stops_append stops (by decide) _) same).1

theorem doubleGroupby_injective {metrics metrics' : Nat}
    (same : wording (.doubleGroupby metrics) = wording (.doubleGroupby metrics')) :
    metrics = metrics' := by
  rw [wording_doubleGroupby, wording_doubleGroupby, String.append_right_inj] at same
  have stops : Stops " metrics, all hosts, random " := by decide
  exact (number_append (stops_append stops (by decide) _)
    (stops_append stops (by decide) _) same).1

theorem all_hosts_apart (hosts : Nat) : toString hosts ++ " host(s)" ≠ "all hosts" := by
  intro same
  have stops : Stops " host(s)" := by decide
  have digits := number_front hosts stops
  rw [same] at digits
  exact number_nonempty hosts digits.symm

theorem highCpu_injective {hosts hosts' : Nat}
    (same : wording (.highCpu hosts) = wording (.highCpu hosts')) : hosts = hosts' := by
  rw [wording_highCpu, wording_highCpu, String.append_right_inj] at same
  by_cases all : hosts = 0
  · by_cases all' : hosts' = 0
    · exact all.trans all'.symm
    · rw [if_pos all, if_neg all'] at same
      exact absurd same.symm (all_hosts_apart hosts')
  · by_cases all' : hosts' = 0
    · rw [if_neg all, if_pos all'] at same
      exact absurd same (all_hosts_apart hosts)
    · rw [if_neg all, if_neg all'] at same
      have stops : Stops " host(s)" := by decide
      exact (number_append stops stops same).1

theorem wording_injective {k l : Kind} (same : k.wording = l.wording) : k = l := by
  have marks : k.marked = l.marked := by rw [← mark_wording, ← mark_wording, same]
  cases k with
  | singleGroupby metrics hosts hours =>
    cases l with
    | singleGroupby metrics' hosts' hours' =>
      obtain ⟨rfl, rfl, rfl⟩ := singleGroupby_injective same
      rfl
    | _ => cases marks
  | maxAll hosts =>
    cases l with
    | maxAll hosts' => rw [maxAll_injective same]
    | _ => cases marks
  | doubleGroupby metrics =>
    cases l with
    | doubleGroupby metrics' => rw [doubleGroupby_injective same]
    | _ => cases marks
  | highCpu hosts =>
    cases l with
    | highCpu hosts' => rw [highCpu_injective same]
    | _ => cases marks
  | lastPoint =>
    cases l with
    | lastPoint => rfl
    | _ => cases marks
  | orderByLimit =>
    cases l with
    | orderByLimit => rfl
    | _ => cases marks

theorem label_injective {f g : Format} {k l : Kind} (same : k.label f.title = l.label g.title) :
    f = g ∧ k = l := by
  rw [label_wording, label_wording] at same
  have first : f.title.toList.head? = g.title.toList.head? := by
    have opening := congrArg (fun s => s.toList.head?) same
    simp only [String.toList_append, List.head?_append] at opening
    cases f <;> cases g <;> exact opening
  have format : f = g := by
    cases f <;> cases g <;> first | rfl | exact absurd first (by decide)
  subst format
  exact ⟨rfl, wording_injective ((String.append_right_inj _).mp same)⟩

end Kind

theorem Format.generate_label {format : Format} {useTimeBucket : Bool} {kind : Kind}
    {q filled : Query} {before after : Fleet}
    (done : (format.database useTimeBucket).generate kind q before = (.ok filled, after)) :
    filled.label = kind.label format.title := by
  by_cases supported : (format.database useTimeBucket).supports kind = true
  · obtain ⟨request, -, rfl⟩ := Database.generate_ok supported done
    cases format with
    | timescale => rfl
    | siri => rfl
  · rw [Database.generate, if_neg supported] at done
    cases done

/-- A query that was filled for a kind, whatever it held before. -/
def Filled (format : Format) (kind : Kind) (q : Query) : Prop :=
  ∃ useTimeBucket before after, ∃ old : Query,
    (format.database useTimeBucket).generate kind old before = (.ok q, after)

theorem Filled.label {format : Format} {kind : Kind} {q : Query} (filled : Filled format kind q) :
    q.label = kind.label format.title := by
  obtain ⟨useTimeBucket, before, after, old, done⟩ := filled
  exact Format.generate_label done

/-- A latency of a filled query, reported under its label. -/
structure Call where
  format : Format
  kind : Kind
  query : Query
  filled : Filled format kind query
  observation : Latency.Observation
  labelled : observation.label = query.label

theorem Call.label (c : Call) : c.observation.label = c.kind.label c.format.title :=
  c.labelled.trans c.filled.label

/-- The label of a query gives its database and its kind with all numbers, and is none of those that
the collector has for groups of its own. So the group of a label is made of the latencies of this one
kind of query for this one database, and of all of them. -/
theorem labels_tell_queries_apart {f g : Format} {k l : Kind} {q r : Query}
    (filled : Filled f k q) (filled' : Filled g l r) :
    (q.label = r.label → f = g ∧ k = l) ∧ Plain q.label ∧ Plain r.label ∧
      ∀ prewarm (calls : List Call),
        (observeAll prewarm (calls.map Call.observation) []).find? q.label =
          Group.ofValues?
            ((calls.filter fun c => c.format = f ∧ c.kind = k).map (·.observation.value)) := by
  have plain : Plain q.label := by
    rw [filled.label]
    exact k.label_plain f
  have plain' : Plain r.label := by
    rw [filled'.label]
    exact l.label_plain g
  refine ⟨?_, plain, plain', ?_⟩
  · intro same
    rw [filled.label, filled'.label] at same
    exact Kind.label_injective same
  · intro prewarm calls
    have reported : ∀ o ∈ calls.map Call.observation, Plain o.label := by
      intro o member
      obtain ⟨c, -, rfl⟩ := List.mem_map.mp member
      rw [c.label]
      exact c.kind.label_plain c.format
    have ours : calls.filter ((fun o => decide (o.label = q.label)) ∘ Call.observation) =
        calls.filter fun c => c.format = f ∧ c.kind = k := by
      apply List.filter_congr
      intro c _
      rw [Function.comp_apply, c.label, filled.label]
      refine decide_eq_decide.mpr ⟨Kind.label_injective, ?_⟩
      rintro ⟨rfl, rfl⟩
      rfl
    rw [(observeAll_gathered prewarm reported).own q.label plain, List.filter_map, ours,
      List.map_map]
    rfl

theorem filled_day (format : Format) (kind : Kind)
    (done : ((format.database true).generate kind {} ⟨day, .ofSeed 3 7⟩).1.toOption.isSome = true) :
    ∃ q, Filled format kind q := by
  cases drawn : (format.database true).generate kind {} ⟨day, .ofSeed 3 7⟩ with
  | mk result after =>
    rw [drawn] at done
    cases result with
    | error e => cases done
    | ok q => exact ⟨q, true, _, after, {}, drawn⟩

theorem hours_are_told_apart :
    ∃ q r, Filled .siri (.singleGroupby 1 1 1) q ∧ Filled .siri (.singleGroupby 1 1 12) r ∧
      q.label ≠ r.label ∧ Plain q.label := by
  obtain ⟨q, filled⟩ := filled_day .siri (.singleGroupby 1 1 1) (by decide +kernel)
  obtain ⟨r, filled'⟩ := filled_day .siri (.singleGroupby 1 1 12) (by decide +kernel)
  obtain ⟨apart, plain, -⟩ := labels_tell_queries_apart filled filled'
  refine ⟨q, r, filled, filled', ?_, plain⟩
  intro same
  obtain ⟨-, kinds⟩ := apart same
  revert kinds
  decide

end QueryBench
