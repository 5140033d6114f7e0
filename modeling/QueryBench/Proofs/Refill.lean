import QueryBench.Proofs.Requests

/- One query that is filled again and again. A fill draws all that it needs before it changes the
   query, and then replaces everything but the number. So a fill that fails leaves the query alone,
   one that succeeds leaves nothing of it, and the draws do not depend on it at all. -/
namespace QueryBench
open Workload

/-- A fleet, and the query at hand. -/
structure Desk where
  fleet : Fleet
  query : Query
  deriving DecidableEq, Repr

/-- A computation that draws from a fleet and changes a query in its place. What it drew stays drawn
and what it changed stays changed when it fails. -/
abbrev Filling := ExceptT Workload.Error (StateM Desk)

namespace Filling

def drawing {α : Type} (m : Drawing α) : Filling α := fun desk =>
  let (result, fleet) := m desk.fleet
  (result, { desk with fleet })

def change (f : Query → Query) : Filling Unit := fun desk =>
  (.ok (), { desk with query := f desk.query })

def enter (title : String) (render : Request → Payload) (kind : Kind) (request : Request) :
    Filling Unit := do
  let label := kind.label title
  let description :=
    match request.timeText? with
    | some time => label ++ ": " ++ time
    | none => label
  change fun q => { q with label }
  change fun q => { q with description }
  change fun q => { q with affinity := request.onlyHost? }
  change fun q => { q with payload := render request }

theorem drawing_bind {α β : Type} (m : Drawing α) (f : α → Filling β) (desk : Desk) :
    (drawing m >>= f) desk =
      match m desk.fleet with
      | (.ok a, fleet) => f a { desk with fleet }
      | (.error e, fleet) => (.error e, { desk with fleet }) := by
  show StateT.bind (drawing m) (ExceptT.bindCont f) desk = _
  simp only [StateT.bind, drawing]
  cases drawn : m desk.fleet with
  | mk result fleet =>
    cases result with
    | ok a => rfl
    | error e => rfl

theorem enter_apply (title : String) (render : Request → Payload) (kind : Kind) (request : Request)
    (desk : Desk) :
    enter title render kind request desk =
      (.ok (), { desk with query := Database.fillWith title render kind request desk.query }) := rfl

end Filling

namespace Format
variable (format : Format) (useTimeBucket : Bool)

def refill (kind : Kind) : Filling Unit :=
  if (format.database useTimeBucket).supports kind then do
    let request ← Filling.drawing ((format.database useTimeBucket).draw kind)
    Filling.enter format.title (format.render useTimeBucket) kind request
  else throw (.unsupported kind.capability (format.database useTimeBucket).tag)

theorem fill_eq (kind : Kind) (request : Request) (q : Query) :
    (format.database useTimeBucket).fill kind request q =
      Database.fillWith format.title (format.render useTimeBucket) kind request q := by
  cases format with
  | timescale => rfl
  | siri => rfl

theorem refill_apply (kind : Kind) (fleet : Fleet) (q : Query) :
    format.refill useTimeBucket kind ⟨fleet, q⟩ =
      match (format.database useTimeBucket).generate kind q fleet with
      | (.ok filled, after) => (.ok (), ⟨after, filled⟩)
      | (.error e, after) => (.error e, ⟨after, q⟩) := by
  by_cases supported : (format.database useTimeBucket).supports kind = true
  · rw [refill, if_pos supported, Filling.drawing_bind]
    cases drawn : (format.database useTimeBucket).draw kind fleet with
    | mk result after =>
      cases result with
      | ok request =>
        rw [Database.generate_filled supported drawn, fill_eq]
        exact Filling.enter_apply ..
      | error e => rw [Database.generate_failed supported drawn]
  · rw [refill, if_neg supported, Database.generate, if_neg supported]
    rfl

theorem generate_settled (kind : Kind) (fleet : Fleet) :
    (∃ e after, ∀ q, (format.database useTimeBucket).generate kind q fleet = (.error e, after)) ∨
    ∃ (filled : Query) (after : Fleet), ∀ q, (format.database useTimeBucket).generate kind q fleet =
      (.ok { filled with id := q.id }, after) := by
  by_cases supported : (format.database useTimeBucket).supports kind = true
  · cases drawn : (format.database useTimeBucket).draw kind fleet with
    | mk result after =>
      cases result with
      | ok request =>
        right
        refine ⟨(format.database useTimeBucket).fill kind request {}, after, ?_⟩
        intro q
        rw [Database.generate_filled supported drawn, fill_eq, fill_eq]
        rfl
      | error e =>
        left
        exact ⟨e, after, fun q => Database.generate_failed supported drawn q⟩
  · left
    refine ⟨.unsupported kind.capability (format.database useTimeBucket).tag, fleet, ?_⟩
    intro q
    rw [Database.generate, if_neg supported]
    rfl

end Format

/-- One query filled again and again, cleared before some of the fills. It is kept where a fill
fails. -/
def Database.fillAgain (d : Database) : List (Bool × Kind) → Query → Fleet → List Fill
  | [], _, _ => []
  | (clear, kind) :: rest, q, fleet =>
      let q := if clear then q.cleared else q
      let (result, after) := d.generate kind q fleet
      ⟨kind, fleet, result, after⟩ :: d.fillAgain rest (result.toOption.getD q) after

def Fill.unnumbered (f : Fill) : Fill := { f with result := f.result.map ({ · with id := 0 }) }

/-- Filling one query again and again comes to the same as filling another one each time. -/
theorem Format.fillAgain_eq (format : Format) (useTimeBucket : Bool)
    (fills : List (Bool × Kind × Query)) (q : Query) (fleet : Fleet) :
    ((format.database useTimeBucket).fillAgain (fills.map fun f => (f.1, f.2.1)) q fleet).map
        Fill.unnumbered =
      ((format.database useTimeBucket).fillEach (fills.map Prod.snd) fleet).map
        Fill.unnumbered := by
  induction fills generalizing q fleet with
  | nil => rfl
  | cons fill fills ih =>
    obtain ⟨clear, kind, other⟩ := fill
    simp only [List.map_cons, Database.fillAgain, Database.fillEach]
    rcases format.generate_settled useTimeBucket kind fleet with
      ⟨e, after, failed⟩ | ⟨filled, after, done⟩
    · simp only [failed, List.map_cons, ih]
    · simp only [done, List.map_cons, ih]
      rfl

/-- Whatever is in the query at hand, also what is left of a query of another kind or for another
database, a fill comes to the same: it fails and leaves the query as it is, or it succeeds, and then
only the number is still there. The fleet behind it is the same as well. So however many fills one
query goes through, cleared in between or not, they come to what they would with other queries. -/
theorem fills_forget_the_query (format : Format) (useTimeBucket : Bool) :
    (∀ kind fleet,
      (∃ e after, ∀ q,
        (format.database useTimeBucket).generate kind q fleet = (.error e, after) ∧
        format.refill useTimeBucket kind ⟨fleet, q⟩ = (.error e, ⟨after, q⟩)) ∨
      ∃ (filled : Query) (after : Fleet), ∀ q,
        (format.database useTimeBucket).generate kind q fleet =
          (.ok { filled with id := q.id }, after) ∧
        format.refill useTimeBucket kind ⟨fleet, q⟩ =
          (.ok (), ⟨after, { filled with id := q.id }⟩)) ∧
    ∀ (fills : List (Bool × Kind × Query)) q fleet,
      ((format.database useTimeBucket).fillAgain (fills.map fun f => (f.1, f.2.1)) q fleet).map
          Fill.unnumbered =
        ((format.database useTimeBucket).fillEach (fills.map Prod.snd) fleet).map
          Fill.unnumbered := by
  constructor
  · intro kind fleet
    rcases format.generate_settled useTimeBucket kind fleet with
      ⟨e, after, failed⟩ | ⟨filled, after, done⟩
    · left
      refine ⟨e, after, fun q => ⟨failed q, ?_⟩⟩
      rw [Format.refill_apply, failed]
    · right
      refine ⟨filled, after, fun q => ⟨done q, ?_⟩⟩
      rw [Format.refill_apply, done]
  · exact format.fillAgain_eq useTimeBucket

end QueryBench
