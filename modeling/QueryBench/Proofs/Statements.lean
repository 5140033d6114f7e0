import QueryBench.Proofs.Requests
import QueryBench.Proofs.TimeText

/- What the payload of a query says. The names of hosts and the times in it end where they can be
   seen to end, so two queries of one kind with the same payload are about the same hosts and times.
-/
namespace QueryBench
open Text Workload

def InWord (n : Int) : Prop := -0x8000000000000000 ≤ n ∧ n < 0x8000000000000000

namespace Interval

theorem start_inWord (i : Interval) : InWord i.start :=
  ⟨i.lower, Int.lt_of_le_of_lt i.ordered i.upper⟩

theorem finish_inWord (i : Interval) : InWord i.finish :=
  ⟨Int.le_trans i.lower i.ordered, i.upper⟩

theorem bounds_injective {i j : Interval} (starts : i.start = j.start)
    (ends : i.finish = j.finish) : i = j := by
  cases i
  cases j
  cases starts
  cases ends
  rfl

end Interval

theorem Moment.delimited_ofNanos (between : String) {after : String} (closes : Closes after) :
    Delimited InWord fun n => (ofNanos n).render between after := by
  intro m n known known' s t same
  obtain ⟨moments, rest⟩ := delimited_render between closes _ _ (ofNanos_common known.1 known.2)
    (ofNanos_common known'.1 known'.2) s t same
  refine ⟨?_, rest⟩
  rw [← toNanos_ofNanos m, moments, toNanos_ofNanos]

theorem delimited_timeText : Delimited InWord Interval.timeText :=
  Moment.delimited_ofNanos "T" ⟨'Z', [], by decide, by decide, by decide⟩

theorem Timescale.delimited_sqlTime : Delimited InWord sqlTime :=
  delimited_between
    (Moment.delimited_ofNanos " " ⟨' ', "+0000".toList, by decide, by decide, by decide⟩) "'" "'"

theorem delimited_window {time : Int → String} (delimited : Delimited InWord time)
    (before between behind : String) :
    Delimited (fun _ => True) fun w : Interval =>
      before ++ time w.start ++ between ++ time w.finish ++ behind := by
  intro v w _ _ s t same
  simp only [String.append_assoc, String.append_right_inj] at same
  obtain ⟨starts, same⟩ := delimited _ _ v.start_inWord w.start_inWord _ _ same
  rw [String.append_right_inj] at same
  obtain ⟨ends, same⟩ := delimited _ _ v.finish_inWord w.finish_inWord _ _ same
  exact ⟨Interval.bounds_injective starts ends, (String.append_right_inj _).mp same⟩

theorem delimited_hosts {quote : String} (stops : Stops quote) (some_ : quote ≠ "")
    (before separator behind : String) (count : Nat) :
    Delimited (fun numbers : List Nat => numbers.length = count) fun numbers =>
      before ++ String.intercalate separator
        ((hostNames numbers).map fun name => quote ++ name ++ quote) ++ behind := by
  have host : Delimited (fun _ => True) fun n : Nat =>
      quote ++ Sample.nameOf "host" n ++ quote := by
    intro m n known known' s t same
    simp only [Sample.nameOf, String.append_assoc, String.append_right_inj] at same
    apply delimited_number stops some_ m n known known' s t
    simpa only [String.append_assoc] using same
  have list := delimited_between (delimited_list host separator count) before behind
  intro numbers others length length' s t same
  simp only [hostNames, List.map_map] at same
  exact list numbers others ⟨length, fun _ _ => trivial⟩ ⟨length', fun _ _ => trivial⟩ s t same

namespace Format

theorem delimited_timeClause (format : Format) : Delimited (fun _ => True) format.timeClause := by
  cases format with
  | timescale =>
    have window := delimited_window Timescale.delimited_sqlTime "time >= " " AND time < " ""
    simp only [String.append_empty] at window
    exact window
  | siri => exact delimited_window delimited_timeText " between '" "' and '" "'"

theorem delimited_hostClause (format : Format) (count : Nat) :
    Delimited (fun numbers : List Nat => numbers.length = count) fun numbers =>
      format.hostClause (hostNames numbers) := by
  cases format with
  | timescale => exact delimited_hosts (by decide) (by decide) "hostname IN (" "," ")" count
  | siri => exact delimited_hosts (by decide) (by decide) "(" " | " ")" count

theorem delimited_optionalHosts (format : Format) (before : String) (count : Nat) :
    Delimited (fun numbers : List Nat => numbers.length = count) fun numbers =>
      if hostNames numbers = [] then "" else before ++ format.hostClause (hostNames numbers) := by
  intro numbers others length length' s t same
  rcases Nat.eq_zero_or_pos count with rfl | some_
  · obtain rfl := List.length_eq_zero_iff.mp length
    obtain rfl := List.length_eq_zero_iff.mp length'
    exact ⟨rfl, (String.append_right_inj _).mp same⟩
  · have named : ∀ l : List Nat, l.length = count → hostNames l ≠ [] := by
      rintro l rfl
      rw [hostNames, Ne, List.map_eq_nil_iff]
      exact List.length_pos_iff.mp some_
    simp only [if_neg (named _ length), if_neg (named _ length'), String.append_assoc,
      String.append_right_inj] at same
    exact format.delimited_hostClause count _ _ length length' s t same

end Format

/-- What two queries of one kind have in common if their payloads are the same: the hosts, in their
order, and the window, or only its end where the kind leaves the start open. The last readings are
the same whatever was drawn. -/
def Kind.Alike (kind : Kind) (hosts others : List String) (window other : Interval) : Prop :=
  match kind with
  | .singleGroupby _ _ _ | .maxAll _ | .doubleGroupby _ | .highCpu _ =>
      hosts = others ∧ window = other
  | .orderByLimit => window.finish = other.finish
  | .lastPoint => True

section Statements
variable {kind : Kind} {numbers others : List Nat} {window other : Interval}

theorem Timescale.statement_alike {b : Buckets} (count : numbers.length = kind.hosts)
    (count' : others.length = kind.hosts)
    (same : statement b (kind.request (hostNames numbers) window) =
      statement b (kind.request (hostNames others) other)) :
    kind.Alike (hostNames numbers) (hostNames others) window other := by
  have hosts := Format.timescale.delimited_hostClause kind.hosts
  have optional := Format.timescale.delimited_optionalHosts " AND " kind.hosts
  have windows := Format.timescale.delimited_timeClause
  simp only [Format.hostClause, Format.timeClause] at hosts optional windows
  unfold statement Kind.request at same
  cases kind with
  | singleGroupby _ _ _ | maxAll _ =>
    simp only [String.append_assoc, String.append_right_inj] at same
    obtain ⟨rfl, rest⟩ := hosts _ _ count count' _ _ same
    rw [String.append_right_inj] at rest
    exact ⟨rfl, (windows _ _ trivial trivial _ _ rest).1⟩
  | doubleGroupby _ =>
    obtain rfl := List.length_eq_zero_iff.mp count
    obtain rfl := List.length_eq_zero_iff.mp count'
    simp only [String.append_assoc, String.append_right_inj] at same
    exact ⟨rfl, (windows _ _ trivial trivial _ _ same).1⟩
  | highCpu _ =>
    simp only [String.append_assoc, String.append_right_inj] at same
    obtain ⟨rfl, rest⟩ := windows _ _ trivial trivial _ _ same
    obtain rfl := delimited_injective optional count count' rest
    exact ⟨rfl, rfl⟩
  | orderByLimit =>
    simp only [String.append_assoc, String.append_right_inj] at same
    exact (delimited_sqlTime _ _ window.finish_inWord other.finish_inWord _ _ same).1
  | lastPoint => trivial

theorem Siri.statement_alike (supported : supports kind = true)
    (count : numbers.length = kind.hosts) (count' : others.length = kind.hosts)
    (same : statement (kind.request (hostNames numbers) window) =
      statement (kind.request (hostNames others) other)) :
    kind.Alike (hostNames numbers) (hostNames others) window other := by
  have hosts := Format.siri.delimited_hostClause kind.hosts
  have optional := Format.siri.delimited_optionalHosts " & " kind.hosts
  have windows := Format.siri.delimited_timeClause
  simp only [Format.hostClause, Format.timeClause] at hosts optional windows
  unfold statement Kind.request at same
  cases kind with
  | singleGroupby _ _ _ | maxAll _ =>
    simp only [String.append_assoc, String.append_right_inj] at same
    obtain ⟨rfl, rest⟩ := hosts _ _ count count' _ _ same
    exact ⟨rfl, delimited_injective windows trivial trivial rest⟩
  | doubleGroupby _ =>
    obtain rfl := List.length_eq_zero_iff.mp count
    obtain rfl := List.length_eq_zero_iff.mp count'
    simp only [String.append_assoc, String.append_right_inj] at same
    exact ⟨rfl, delimited_injective windows trivial trivial same⟩
  | highCpu _ =>
    simp only [String.append_assoc, String.append_right_inj] at same
    obtain ⟨rfl, rest⟩ := optional _ _ count count' _ _ same
    exact ⟨rfl, delimited_injective windows trivial trivial rest⟩
  | orderByLimit => cases supported
  | lastPoint => trivial

end Statements

theorem Format.generate_drawn (format : Format) (useTimeBucket : Bool) {kind : Kind}
    {q filled : Query} {fleet after : Fleet}
    (done : (format.database useTimeBucket).generate kind q fleet = (.ok filled, after)) :
    (format.database useTimeBucket).supports kind = true ∧
      ∃ numbers window, (format.database useTimeBucket).draw kind fleet =
          (.ok (kind.request (hostNames numbers) window), after) ∧
        numbers.length = kind.hosts ∧
        filled.payload = format.render useTimeBucket (kind.request (hostNames numbers) window) := by
  by_cases supported : (format.database useTimeBucket).supports kind = true
  · obtain ⟨request, drawn, rfl⟩ := Database.generate_ok supported done
    have asked := drawn
    rw [format.database_draw useTimeBucket supported] at asked
    obtain ⟨numbers, window, suited, rfl⟩ := Request.asked_suited (Timescale.draw_asked asked)
    refine ⟨supported, numbers, window, drawn, suited.hosts.length, ?_⟩
    cases format with
    | timescale => rfl
    | siri => rfl
  · rw [Database.generate, if_neg supported] at done
    cases done

theorem Format.render_alike (format : Format) (useTimeBucket : Bool) {kind : Kind}
    (supported : (format.database useTimeBucket).supports kind = true)
    {numbers others : List Nat} {window other : Interval} (count : numbers.length = kind.hosts)
    (count' : others.length = kind.hosts) :
    format.render useTimeBucket (kind.request (hostNames numbers) window) =
        format.render useTimeBucket (kind.request (hostNames others) other) ↔
      kind.Alike (hostNames numbers) (hostNames others) window other := by
  constructor
  · intro same
    cases format with
    | timescale => exact Timescale.statement_alike count count' (Payload.sql.inj same).2
    | siri => exact Siri.statement_alike supported count count' (Payload.siri.inj same)
  · intro alike
    cases kind with
    | singleGroupby _ _ _ | maxAll _ | doubleGroupby _ | highCpu _ => rw [alike.1, alike.2]
    | orderByLimit => exact format.render_end useTimeBucket alike
    | lastPoint => rfl

/-- Of two queries of one kind, filled from whatever fleets by one database, the payloads are the
same exactly if the draws gave the same hosts in the same order and the same window, to the
nanosecond. -/
theorem payloads_tell_hosts_and_times (format : Format) (useTimeBucket : Bool) (kind : Kind)
    {q q' filled filled' : Query} {fleet fleet' after after' : Fleet}
    (done : (format.database useTimeBucket).generate kind q fleet = (.ok filled, after))
    (done' : (format.database useTimeBucket).generate kind q' fleet' = (.ok filled', after')) :
    ∃ hosts hosts' window window',
      (format.database useTimeBucket).draw kind fleet =
        (.ok (kind.request hosts window), after) ∧
      (format.database useTimeBucket).draw kind fleet' =
        (.ok (kind.request hosts' window'), after') ∧
      hosts.length = kind.hosts ∧ hosts'.length = kind.hosts ∧
      (filled.payload = filled'.payload ↔ kind.Alike hosts hosts' window window') := by
  obtain ⟨supported, numbers, window, drawn, count, payload⟩ :=
    format.generate_drawn useTimeBucket done
  obtain ⟨-, others, other, drawn', count', payload'⟩ := format.generate_drawn useTimeBucket done'
  refine ⟨hostNames numbers, hostNames others, window, other, drawn, drawn', ?_, ?_, ?_⟩
  · rw [hostNames, List.length_map, count]
  · rw [hostNames, List.length_map, count']
  · rw [payload, payload']
    exact format.render_alike useTimeBucket supported count count'

def halfDay (late : Fin 2) : Interval :=
  ⟨late.val, late.val + 43200000000000, by omega, by omega, by omega⟩

theorem half_days_are_told_apart :
    ∃ q r after after',
      (Timescale.database true).generate (.highCpu 0) {} ⟨halfDay 0, .ofSeed 3 7⟩ =
        (.ok q, after) ∧
      (Timescale.database true).generate (.highCpu 0) {} ⟨halfDay 1, .ofSeed 3 7⟩ =
        (.ok r, after') ∧
      q.payload ≠ r.payload := by
  have filled : ∀ late, ∃ q after, (Timescale.database true).generate (.highCpu 0) {}
      ⟨halfDay late, .ofSeed 3 7⟩ = (.ok q, after) := by
    intro late
    have done : ∀ late, ((Timescale.database true).generate (.highCpu 0) {}
        ⟨halfDay late, .ofSeed 3 7⟩).1.toOption.isSome = true := by
      decide +kernel
    cases drawn : (Timescale.database true).generate (.highCpu 0) {}
        ⟨halfDay late, .ofSeed 3 7⟩ with
    | mk result after =>
      have some_ := done late
      rw [drawn] at some_
      cases result with
      | error e => cases some_
      | ok q => exact ⟨q, after, rfl⟩
  have placed : ∀ late after hosts window,
      Timescale.draw (.highCpu 0) ⟨halfDay late, .ofSeed 3 7⟩ =
        (.ok (.highCpu hosts window), after) → window.start = late.val := by
    intro late after hosts window drawn
    obtain ⟨numbers, other, suited, same⟩ := Request.asked_suited (Timescale.draw_asked drawn)
    obtain ⟨-, rfl⟩ := Request.highCpu.inj same
    obtain ⟨starts, spans, ends⟩ := suited.window _ rfl
    simp only [halfDay, Kind.highCpuWindow, Duration.ofHours, Duration.ofSeconds,
      nanosPerSecond] at starts spans ends
    omega
  obtain ⟨q, after, first⟩ := filled 0
  obtain ⟨r, after', second⟩ := filled 1
  refine ⟨q, r, after, after', first, second, ?_⟩
  intro same
  obtain ⟨hosts, hosts', window, window', drawn, drawn', -, -, told⟩ :=
    payloads_tell_hosts_and_times .timescale true (.highCpu 0) first second
  obtain ⟨-, rfl⟩ := told.mp same
  have apart := (placed 0 _ _ _ drawn).symm.trans (placed 1 _ _ _ drawn')
  exact absurd apart (by decide)

end QueryBench
