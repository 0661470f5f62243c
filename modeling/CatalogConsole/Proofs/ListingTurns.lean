import CatalogConsole.Proofs.ClientLink
import CatalogConsole.Service.Desk

/-! # Listings that take turns

Several listings can be taken from one service, and be asked for their elements in any order, with
other requests in between.  All of them share the link, so what comes of a request depends on the
whole history.  A listing itself does not: it only depends on the visits that are paid to it.

`Listing.turn` is what a listing does on a visit, without the service that it has been taken from.
A service in use does the same under the handle of the listing (`Desk.turns_replay`), because
requests under other handles leave it alone (`Desk.listing_step_of_other`).  So the turns of a
listing are those of a listing on its own, and these have a closed form, `Visit.turn`: they follow
from the first visit and from the number of the turn.  `listing_turns` is what this means for the
listings of a service in use.
-/
namespace CatalogConsole

/-- What a listing meets when it is asked for its next element. -/
structure Visit where
  link : Link
  remote : Remote

/-- What comes of it when a listing is asked for its next element. -/
structure Turn where
  result : Except Failure Answer
  trace : Trace

namespace Turn

/-- The turn of a listing that is finished already. -/
def ended : Turn := ⟨.ok .noMore, []⟩

/-- The turn in which the next element is fetched, if there is one. -/
def fetching (index : Nat) (element? : Option (Except Failure Entry)) : Turn where
  result :=
    match element? with
    | some (.ok entry) => .ok (.entry entry)
    | some (.error f) => .error f.normalized
    | none => .ok .noMore
  trace := [.event (.fetch index)]

/-- A turn before which something else is seen. -/
def after (before : Trace) (t : Turn) : Turn := ⟨t.result, before ++ t.trace⟩

/-- A turn that gives an element. -/
def Yields (t : Turn) : Prop := ∃ entry, t.result = .ok (.entry entry)

end Turn

/-! ## A listing on its own -/

namespace Listing

/-- The listing after it has been asked for its next element with this outcome, and its turn. -/
def taken (outcome : Outcome (Option Entry × Listing)) : Listing × Turn :=
  match outcome.result with
  | .ok (found, rest) => (rest, ⟨.ok (found.elim .noMore .entry), outcome.trace⟩)
  | .error f => (.finished, ⟨.error f, outcome.trace⟩)

/-- What has been seen before is seen before the turn. -/
theorem taken_append (result : Except Failure (Option Entry × Listing)) (link : Link)
    (before trace : Trace) :
    taken ⟨result, link, before ++ trace⟩ =
      ((taken ⟨result, link, trace⟩).1, (taken ⟨result, link, trace⟩).2.after before) := by
  cases result <;> rfl

/-- The listing after a visit, and its turn. -/
def turn (l : Listing) (v : Visit) : Listing × Turn := taken (l.next.run v.remote v.link)

/-- The turns of a listing on these visits. -/
def turns (l : Listing) (visits : List Visit) : List Turn := (replay turn l visits).2

/-- The listing after its next element has been fetched. -/
def left (index : Nat) : List (Except Failure Entry) → Listing
  | .ok _ :: rest => running (index + 1) rest
  | .error _ :: _ | [] => finished

theorem turn_finished (v : Visit) : finished.turn v = (finished, .ended) := rfl

theorem turn_running (index : Nat) (rest : List (Except Failure Entry)) (v : Visit) :
    (running index rest).turn v = (left index rest, .fetching index rest.head?) := by
  match rest with
  | [] => rfl
  | .ok entry :: rest => rfl
  | .error f :: rest => rfl

/-- The first turn of a listing whose call gets no answer. -/
theorem turn_fresh_of_refused {query : Query} {v : Visit} {f : Failure}
    (refused : v.remote.refusal? v.link = some f) :
    (fresh query).turn v =
      (finished, ⟨.error f.normalized, v.remote.requestTrace v.link (.list query)⟩) := by
  rw [turn, next, Action.run_bind, start, run_request, refused]
  rfl

/-- The first turn of a listing whose call gets an answer: from then on its elements are fixed. -/
theorem turn_fresh_of_answered {query : Query} {v : Visit}
    (answered : v.remote.refusal? v.link = none) :
    (fresh query).turn v =
      (left 0 (v.remote.reply.elements query),
        (Turn.fetching 0 (v.remote.reply.elements query).head?).after
          (v.remote.requestTrace v.link (.list query))) := by
  have opened : (fresh query).next.run v.remote v.link =
      let elements := v.remote.reply.elements query
      let later := (advance 0 elements).run v.remote (v.remote.linkAfter v.link)
      ⟨later.result, later.link, v.remote.requestTrace v.link (.list query) ++ later.trace⟩ := by
    rw [next, Action.run_bind, start, run_request, answered]
    rfl
  -- after the call the listing is as good as running
  have running :=
    turn_running 0 (v.remote.reply.elements query) ⟨v.remote.linkAfter v.link, v.remote⟩
  rw [turn, next] at running
  rw [turn, opened, taken_append, running]

/-- The turn with this number of a listing that has these elements left. -/
def course (index : Nat) (elements : List (Except Failure Entry)) (k : Nat) : Turn :=
  if k ≤ stop elements then .fetching (index + k) elements[k]? else .ended

theorem course_zero (index : Nat) (elements : List (Except Failure Entry)) :
    course index elements 0 = .fetching index elements.head? := by
  rw [course, if_pos (Nat.zero_le _), List.head?_eq_getElem?]
  rfl

/-- After the turn of an element that does not fail there are those of the rest. -/
theorem course_ok (index : Nat) (entry : Entry) (rest : List (Except Failure Entry)) (k : Nat) :
    course index (.ok entry :: rest) (k + 1) = course (index + 1) rest k := by
  simp [course, Nat.add_assoc, Nat.add_comm 1]

/-- There is nothing after the turn of an element that fails, or of none. -/
theorem course_error (index : Nat) (f : Failure) (rest : List (Except Failure Entry)) (k : Nat) :
    course index (.error f :: rest) (k + 1) = .ended := by
  simp [course]

theorem course_nil (index k : Nat) : course index [] (k + 1) = .ended := by
  simp [course]

/-- Up to the stop a turn fetches the element with its number, and after it there are no more. -/
theorem course_of_le {index k : Nat} {elements : List (Except Failure Entry)}
    (h : k ≤ stop elements) : course index elements k = .fetching (index + k) elements[k]? :=
  if_pos h

theorem course_of_lt {index k : Nat} {elements : List (Except Failure Entry)}
    (h : stop elements < k) : course index elements k = .ended :=
  if_neg (Nat.not_le_of_lt h)

/-- A turn gives an element if and only if the listing does not stop there or before. -/
theorem yields_course_iff {index k : Nat} {elements : List (Except Failure Entry)} :
    (course index elements k).Yields ↔ k < stop elements := by
  constructor
  · rintro ⟨entry, yields⟩
    rcases Nat.lt_trichotomy k (stop elements) with early | rfl | late
    · exact early
    · rw [course_of_le (Nat.le_refl _)] at yields
      rcases getElem?_stop elements with absent | ⟨f, failing⟩
      · rw [absent] at yields
        cases yields
      · rw [failing] at yields
        cases yields
    · rw [course_of_lt late] at yields
      cases yields
  · intro early
    obtain ⟨entry, hentry⟩ := getElem?_of_lt_stop early
    exact ⟨entry, by rw [course_of_le (Nat.le_of_lt early), hentry]; rfl⟩

/-- The turns of a finished listing. -/
theorem getElem?_turns_finished (visits : List Visit) (k : Nat) :
    (turns finished visits)[k]? = visits[k]?.map fun _ => .ended := by
  induction visits generalizing k with
  | nil => rfl
  | cons v rest ih =>
    rw [turns, replay_cons, turn_finished]
    cases k with
    | zero => rfl
    | succ k => exact ih k

/-- **The turns of a listing whose call has been made** follow its elements. -/
theorem getElem?_turns_left (index : Nat) (elements : List (Except Failure Entry))
    (visits : List Visit) (k : Nat) :
    (turns (left index elements) visits)[k]? =
      visits[k]?.map fun _ => course index elements (k + 1) := by
  -- the induction goes on as long as elements are read; after that the listing is finished
  induction visits generalizing index elements k with
  | nil => rfl
  | cons v rest ih =>
    match elements with
    | .ok entry :: elements =>
      rw [course_ok, left, turns, replay_cons, turn_running]
      cases k with
      | zero => rw [course_zero]; rfl
      | succ k => exact ih (index + 1) elements k
    | .error f :: elements =>
      rw [course_error]
      exact getElem?_turns_finished (v :: rest) k
    | [] =>
      rw [course_nil]
      exact getElem?_turns_finished (v :: rest) k

end Listing

namespace Visit

variable (first : Visit) (query : Query)

/-- What is seen of the call, which is made in the first turn. -/
def opening (k : Nat) : Trace :=
  if k = 0 then first.remote.requestTrace first.link (.list query) else []

/-- The turn with this number after a first visit, but for the call. -/
def course (k : Nat) : Turn :=
  match first.remote.refusal? first.link with
  | some f => if k = 0 then ⟨.error f.normalized, []⟩ else .ended
  | none => Listing.course 0 (first.remote.reply.elements query) k

/-- The turn with this number after a first visit.  The first turn makes the call, and the reply to
it has the elements of all turns. -/
def turn (k : Nat) : Turn := (first.course query k).after (first.opening query k)

end Visit

/-- **The turns of a fresh listing** follow from its first visit. -/
theorem Listing.getElem?_turns_fresh (query : Query) (first : Visit) (rest : List Visit) (k : Nat) :
    (turns (fresh query) (first :: rest))[k]? =
      (first :: rest)[k]?.map fun _ => first.turn query k := by
  rw [turns, replay_cons]
  cases refused : first.remote.refusal? first.link with
  | some f =>
    rw [turn_fresh_of_refused refused]
    cases k with
    | zero => simp [Visit.turn, Visit.course, Visit.opening, Turn.after, refused]
    | succ k =>
      simp only [Visit.turn, Visit.course, refused]
      exact getElem?_turns_finished rest k
  | none =>
    rw [turn_fresh_of_answered refused]
    cases k with
    | zero => simp [Visit.turn, Visit.course, Visit.opening, refused, course_zero]
    | succ k =>
      simp only [Visit.turn, Visit.course, refused]
      exact getElem?_turns_left 0 _ rest k

namespace Visit

variable {first : Visit} {query : Query}

/-- Without an answer there are no elements. -/
theorem course_of_refused {f : Failure} (refused : first.remote.refusal? first.link = some f)
    (k : Nat) : first.course query k = if k = 0 then ⟨.error f.normalized, []⟩ else .ended := by
  rw [course, refused]

theorem course_of_answered (answered : first.remote.refusal? first.link = none) (k : Nat) :
    first.course query k = Listing.course 0 (first.remote.reply.elements query) k := by
  rw [course, answered]

/-- A turn gives an element if and only if the call has an answer and the listing of its elements
does not stop there or before. -/
theorem yields_turn_iff {k : Nat} : (first.turn query k).Yields ↔
    first.remote.refusal? first.link = none ∧
      k < Listing.stop (first.remote.reply.elements query) := by
  change (first.course query k).Yields ↔ _
  cases refused : first.remote.refusal? first.link with
  | none =>
    rw [course_of_answered refused, Listing.yields_course_iff]
    simp
  | some f =>
    rw [course_of_refused refused]
    refine ⟨fun ⟨entry, yields⟩ => ?_, fun h => by cases h.1⟩
    split at yields <;> cases yields

/-- **Only the first turn makes a call**, and only if there is a client. -/
theorem calls_turn (k : Nat) : (first.turn query k).trace.calls =
    if k = 0 ∧ first.remote.connectFailure? first.link = none then [.list query] else [] := by
  have silent : (first.course query k).trace.view Event.call? = [] := by
    unfold course Listing.course
    repeat' split
    all_goals rfl
  have called : (first.turn query k).trace.calls = (first.opening query k).calls := by
    change ((first.opening query k) ++ (first.course query k).trace).view Event.call? = _
    rw [Trace.view_append, silent, List.append_nil]
  rw [called, opening]
  cases k with
  | zero =>
    refine (Service.view_requestTrace Event.call? (fun _ => rfl) ..).trans ?_
    cases first.remote.connectFailure? first.link <;> simp [Event.call?]
  | succ k => simp

/-- A turn that gives an element fetches the one with its number, and gives that. -/
theorem turn_of_yields {k : Nat} (yields : (first.turn query k).Yields) :
    (first.turn query k).trace.fetches = [k] ∧
      (first.remote.reply.elements query)[k]?.map (·.map .entry) =
        some (first.turn query k).result := by
  obtain ⟨answered, early⟩ := yields_turn_iff.mp yields
  obtain ⟨entry, hentry⟩ := Listing.getElem?_of_lt_stop early
  have course : first.course query k = .fetching (0 + k) (some (.ok entry)) := by
    rw [course_of_answered answered, Listing.course_of_le (Nat.le_of_lt early), hentry]
  have opening : (first.opening query k).view Event.index? = [] := by
    unfold Visit.opening
    split
    · refine (Service.view_requestTrace Event.index? (fun _ => rfl) ..).trans ?_
      split <;> rfl
    · rfl
  constructor
  · change ((first.opening query k) ++ (first.course query k).trace).view Event.index? = _
    rw [Trace.view_append, opening, course, Nat.zero_add]
    rfl
  · rw [hentry, turn, course]
    rfl

/-- Two first visits that find the same reply, and the same reason if there is no client, have the
same turns after them, but for the connection in the first. -/
theorem turn_congr {other : Visit} (reply : other.remote.reply = first.remote.reply)
    (failure : other.remote.connectFailure? other.link = first.remote.connectFailure? first.link)
    (k : Nat) :
    (other.turn query k).result = (first.turn query k).result ∧
      ∃ before after : Trace,
        (first.turn query k).trace =
          before ++ (if k = 0 then first.link.connectTrace else []) ++ after ∧
        (other.turn query k).trace =
          before ++ (if k = 0 then other.link.connectTrace else []) ++ after := by
  have course : other.course query k = first.course query k := by
    simp only [Visit.course, Remote.refusal?, reply, failure]
  refine ⟨by rw [turn, turn, course]; rfl, ?_⟩
  cases k with
  | zero =>
    -- the note comes before the connection, and the call after it
    refine ⟨[(Call.list query).note],
      (if (first.remote.connectFailure? first.link).isSome then []
        else [.event (.call (.list query))]) ++ (first.course query 0).trace, ?_, ?_⟩
    · simp [turn, Turn.after, opening, Remote.requestTrace]
    · simp [turn, Turn.after, opening, Remote.requestTrace, course, failure]
  | succ k =>
    refine ⟨[], (first.course query (k + 1)).trace, ?_, ?_⟩
    · simp [turn, Turn.after, opening]
    · simp [turn, Turn.after, opening, course]

/-- The result of a turn when all turns before it have given elements. -/
theorem result_turn {k : Nat} (before : ∀ j < k, (first.turn query j).Yields) :
    (first.turn query k).result =
      match first.remote.refusal? first.link with
      | some f => .error f.normalized
      | none => (Turn.fetching k (first.remote.reply.elements query)[k]?).result := by
  change (first.course query k).result = _
  cases refused : first.remote.refusal? first.link with
  | some f =>
    cases k with
    | zero => rw [course_of_refused refused]; rfl
    | succ k =>
      -- the first turn would have given an element
      obtain ⟨answered, -⟩ := yields_turn_iff.mp (before 0 (Nat.succ_pos k))
      rw [refused] at answered
      cases answered
  | none =>
    have running : k ≤ Listing.stop (first.remote.reply.elements query) := by
      cases k with
      | zero => exact Nat.zero_le _
      | succ k => exact (yields_turn_iff.mp (before k (Nat.lt_succ_self k))).2
    rw [course_of_answered refused, Listing.course_of_le running]
    rfl

/-- **A turn that gives no element is the last one.** -/
theorem turn_of_ended {k j : Nat} (ends : ¬ (first.turn query k).Yields) (later : k < j) :
    first.turn query j = .ended := by
  have silent : first.opening query j = [] := if_neg (Nat.ne_of_gt (Nat.zero_lt_of_lt later))
  rw [turn, silent]
  cases refused : first.remote.refusal? first.link with
  | some f =>
    rw [course_of_refused refused, if_neg (Nat.ne_of_gt (Nat.zero_lt_of_lt later))]
    rfl
  | none =>
    have stopped : Listing.stop (first.remote.reply.elements query) ≤ k :=
      Nat.not_lt.mp fun early => ends (yields_turn_iff.mpr ⟨refused, early⟩)
    rw [course_of_answered refused, Listing.course_of_lt (Nat.lt_of_le_of_lt stopped later)]
    rfl

end Visit

/-! ## The listings of a service in use -/

/-- The handle that a request uses. -/
def Request.handle? : Request → Option String
  | connect | create .. | get _ | add .. | delete _ => none
  | listProductSets handle | listProducts _ handle => some handle
  | next handle | collect handle | close handle => some handle

/-- The handle and the query of the listing that a request takes. -/
def Request.takes? (place : Location) : Request → Option (String × Query)
  | listProductSets handle => some (handle, .productSets place.path)
  | listProducts id handle => some (handle, .products (place.productSetPath id))
  | _ => none

namespace Desk

variable (handle : String)

/-- The visits that are paid to the listing under a handle. -/
def visits : Desk → List Request.Step → List Visit
  | _, [] => []
  | desk, s :: rest =>
    (if s.request = .next handle then [⟨desk.link, s.remote⟩] else []) ++
      visits (desk.step s).1 rest

/-- The turns of the listing under a handle, among the responses to some requests. -/
def turns (steps : List Request.Step) (responses : List Response) : List Turn :=
  (steps.zip responses).filterMap fun (s, response) =>
    if s.request = .next handle then some ⟨response.result, response.trace⟩ else none

@[simp] theorem listing_put (desk : Desk) (l : Listing) :
    (desk.put handle l).listing handle = l := by
  simp [listing, put]

theorem listing_put_of_ne {other : String} (ne : other ≠ handle) (desk : Desk) (l : Listing) :
    (desk.put other l).listing handle = desk.listing handle := by
  simp [listing, put, List.lookup_cons, beq_eq_false_iff_ne.mpr ne.symm]

@[simp] theorem listing_respond (desk : Desk) (outcome : Outcome Answer) :
    (desk.respond outcome).1.listing handle = desk.listing handle := rfl

variable {handle}

/-- **A visit** does with the desk what it does with the listing on its own. -/
theorem step_next (desk : Desk) (remote : Remote) :
    let alone := (desk.listing handle).turn ⟨desk.link, remote⟩
    let now := desk.step ⟨.next handle, remote⟩
    now.1.listing handle = alone.1 ∧ (⟨now.2.result, now.2.trace⟩ : Turn) = alone.2 := by
  intro alone now
  change (desk.next remote handle).1.listing handle = _ ∧
    (⟨(desk.next remote handle).2.result, (desk.next remote handle).2.trace⟩ : Turn) = _
  rcases h : (desk.listing handle).next.run remote desk.link with ⟨f | found, link, trace⟩
  · rw [next_of_error h, listing_respond, listing_put]
    simp [alone, Listing.turn, Listing.taken, h, respond]
  · rw [next_of_ok h, listing_respond, listing_put]
    simp [alone, Listing.turn, Listing.taken, h, respond]

/-- **A request that uses another handle, or none,** leaves a listing alone. -/
theorem listing_step_of_other (desk : Desk) {s : Request.Step}
    (other : s.request.handle? ≠ some handle) :
    (desk.step s).1.listing handle = desk.listing handle := by
  obtain ⟨request, remote⟩ := s
  cases request with
  | connect | create | get | add | delete => rfl
  | listProductSets used | listProducts id used | collect used | close used =>
    have ne : used ≠ handle := fun eq => other (congrArg some eq)
    exact listing_put_of_ne handle ne desk _
  | next used =>
    have ne : used ≠ handle := fun eq => other (congrArg some eq)
    change (desk.next remote used).1.listing handle = _
    rcases h : (desk.listing used).next.run remote desk.link with ⟨f | found, link, trace⟩
    · rw [next_of_error h, listing_respond, listing_put_of_ne handle ne]
    · rw [next_of_ok h, listing_respond, listing_put_of_ne handle ne]

/-- **The turns of a listing in a history** are those of the listing on its own, whatever else
happens between its visits. -/
theorem turns_replay (desk : Desk) {steps : List Request.Step}
    (undisturbed : ∀ s ∈ steps, s.request.handle? = some handle → s.request = .next handle) :
    turns handle steps (replay step desk steps).2 =
      (desk.listing handle).turns (visits handle desk steps) := by
  induction steps generalizing desk with
  | nil => rfl
  | cons s rest ih =>
    have later := ih (desk.step s).1 fun s hs => undisturbed s (List.mem_cons_of_mem _ hs)
    -- a step is a visit, or it does not use the handle at all
    obtain ⟨request, remote⟩ := s
    by_cases visit : request = .next handle
    · subst visit
      obtain ⟨kept, turn⟩ : _ ∧ _ := desk.step_next remote
      have now : turns handle (⟨.next handle, remote⟩ :: rest)
          (replay step desk (⟨.next handle, remote⟩ :: rest)).2 =
            ((desk.listing handle).turn ⟨desk.link, remote⟩).2 ::
              turns handle rest (replay step (desk.step ⟨.next handle, remote⟩).1 rest).2 := by
        rw [← turn]
        simp [turns]
      rw [now, later, kept]
      simp [visits, Listing.turns]
    · have other : request.handle? ≠ some handle := fun uses =>
        visit (undisturbed _ List.mem_cons_self uses)
      rw [desk.listing_step_of_other other] at later
      simpa [turns, visits, visit] using later

end Desk

/-- A listing of this query in a history: it is taken from a service in use, under a handle that the
steps after that use for nothing but to ask for its next element. -/
structure ListingLife (query : Query) where
  desk : Desk
  taking : Request.Step
  handle : String
  steps : List Request.Step
  takes : taking.request.takes? desk.place = some (handle, query)
  undisturbed : ∀ s ∈ steps, s.request.handle? = some handle → s.request = .next handle

namespace ListingLife

variable {query : Query} (life : ListingLife query)

/-- The service after the listing has been taken, and the response to that. -/
def opened : Desk × Response := life.desk.step life.taking

/-- The visits that are paid to the listing. -/
def visits : List Visit := life.opened.1.visits life.handle life.steps

/-- The turns of the listing. -/
def turns : List Turn :=
  Desk.turns life.handle life.steps (replay Desk.step life.opened.1 life.steps).2

/-- To take a listing does nothing but to put it under its handle. -/
theorem opened_eq : life.opened =
    (life.desk.put life.handle (.fresh query)).respond ⟨.ok .nothing, life.desk.link, []⟩ := by
  obtain ⟨desk, ⟨request, remote⟩, handle, steps, takes, -⟩ := life
  cases request with
  | listProductSets used => cases takes; rfl
  | listProducts id used => cases takes; rfl
  | _ => cases takes

/-- **The turns of a listing** follow from its first visit. -/
theorem getElem?_turns {first : Visit} (h : life.visits.head? = some first) (k : Nat) :
    life.turns[k]? = life.visits[k]?.map fun _ => first.turn query k := by
  have fresh : life.opened.1.listing life.handle = .fresh query := by
    rw [opened_eq, Desk.listing_respond, Desk.listing_put]
  rw [turns, life.opened.1.turns_replay life.undisturbed, fresh]
  change (Listing.turns (.fresh query) life.visits)[k]? = _
  cases visited : life.visits with
  | nil => rw [visited] at h; cases h
  | cons v rest =>
    rw [visited] at h
    obtain rfl : v = first := Option.some.inj h
    exact Listing.getElem?_turns_fresh query v rest k

/-- The turn with this number follows from the first visit. -/
theorem turn_eq {first : Visit} (h : life.visits.head? = some first) {k : Nat} {t : Turn}
    (ht : life.turns[k]? = some t) : t = first.turn query k := by
  rw [life.getElem?_turns h] at ht
  obtain ⟨-, -, eq⟩ := Option.map_eq_some_iff.mp ht
  exact eq.symm

/-- **The elements that some turns in a row have given** are the first ones of the reply, and
nothing else has been fetched in these turns. -/
theorem take_turns {first : Visit} (h : life.visits.head? = some first) {m : Nat}
    (all : m ≤ life.turns.length) (yields : ∀ t ∈ life.turns.take m, t.Yields) :
    (life.turns.take m).flatMap (·.trace.fetches) = List.range m ∧
      (life.turns.take m).map (·.result) =
        ((first.remote.reply.elements query).take m).map (·.map .entry) := by
  induction m with
  | zero => exact ⟨rfl, rfl⟩
  | succ m ih =>
    have last : life.turns[m]? = some life.turns[m] := List.getElem?_eq_getElem all
    have now := List.take_add_one (l := life.turns) (i := m)
    rw [last] at now
    obtain ⟨fetches, results⟩ := ih (Nat.le_of_succ_le all) fun t ht =>
      yields t (now ▸ List.mem_append_left _ ht)
    have given : life.turns[m].Yields := yields _ (now ▸ List.mem_append_right _ (by simp))
    rw [life.turn_eq h last] at given now
    obtain ⟨fetched, result⟩ := Visit.turn_of_yields given
    obtain ⟨element, found, read⟩ := Option.map_eq_some_iff.mp result
    constructor
    · rw [now, List.flatMap_append, fetches, List.range_succ]
      simpa using fetched
    · rw [now, List.map_append, results, List.take_add_one, found, List.map_append]
      simpa using read.symm

end ListingLife

/-- **Every listing keeps to its own course**, in whatever order the listings of a service are asked
and whatever else happens in between.  To take it does nothing that can be seen.  Its call is made
in its first turn, and the reply to that has all of its elements.  As long as it gives elements it
fetches one in each turn, in order.  The first turn that gives none is at the end, or fails for what
has failed, and nothing happens after that.  In another history in which its first turn meets the
same reply, and fails for the same reason if it gets no client, its turns are the same, but for the
connection in the first. -/
theorem listing_turns {query : Query} (life : ListingLife query) :
    life.opened.2.result = .ok .nothing ∧ life.opened.2.trace = [] ∧
    life.opened.1.link = life.desk.link ∧
    ∀ first, life.visits.head? = some first →
      let elements := first.remote.reply.elements query
      (∀ (k : Nat) (t : Turn), life.turns[k]? = some t → t.trace.calls =
        if k = 0 ∧ first.remote.connectFailure? first.link = none then [.list query] else []) ∧
      (∀ (k : Nat) (t : Turn), life.turns[k]? = some t → (∀ u ∈ life.turns.take k, u.Yields) →
        t.result = match first.remote.refusal? first.link with
          | some f => .error f.normalized
          | none => (Turn.fetching k elements[k]?).result) ∧
      (∀ m, m ≤ life.turns.length → (∀ t ∈ life.turns.take m, t.Yields) →
        (life.turns.take m).flatMap (·.trace.fetches) = List.range m ∧
        (life.turns.take m).map (·.result) = (elements.take m).map (·.map .entry)) ∧
      (∀ (k : Nat) (t : Turn), life.turns[k]? = some t → ¬ t.Yields →
        ∀ (j : Nat) (u : Turn), k < j → life.turns[j]? = some u →
          u.result = .ok .noMore ∧ u.trace = []) ∧
      (∀ (other : ListingLife query) first', other.visits.head? = some first' →
        first'.remote.reply = first.remote.reply →
        first'.remote.connectFailure? first'.link = first.remote.connectFailure? first.link →
        ∀ (k : Nat) (t u : Turn), life.turns[k]? = some t → other.turns[k]? = some u →
          u.result = t.result ∧ ∃ before after : Trace,
            t.trace = before ++ (if k = 0 then first.link.connectTrace else []) ++ after ∧
            u.trace = before ++ (if k = 0 then first'.link.connectTrace else []) ++ after) := by
  rw [life.opened_eq]
  refine ⟨rfl, rfl, rfl, fun first h => ⟨?_, ?_, fun m => life.take_turns h, ?_, ?_⟩⟩
  · intro k t ht
    rw [life.turn_eq h ht]
    exact Visit.calls_turn k
  · intro k t ht yields
    rw [life.turn_eq h ht]
    refine Visit.result_turn fun j hj => ?_
    obtain ⟨hk, -⟩ := List.getElem?_eq_some_iff.mp ht
    have early : j < life.turns.length := Nat.lt_trans hj hk
    rw [← life.turn_eq h (List.getElem?_eq_getElem early)]
    exact yields _ (List.mem_take_iff_getElem.mpr ⟨j, Nat.lt_min.mpr ⟨hj, early⟩, rfl⟩)
  · intro k t ht ends j u later hu
    rw [life.turn_eq h ht] at ends
    rw [life.turn_eq h hu, Visit.turn_of_ended ends later]
    exact ⟨rfl, rfl⟩
  · intro other first' h' reply failure k t u ht hu
    rw [life.turn_eq h ht, other.turn_eq h' hu]
    exact Visit.turn_congr reply failure k

/-- While another listing is started and the reply of the remote side is replaced, a listing gives
the elements of the reply that its first turn met. -/
theorem interleaved_listing_turns :
    let scripted : Remote :=
      { reply := { productSets := [.ok { name := "sets/x" }, .ok { name := "sets/y" }] } }
    let replaced : Remote := { reply := { productSets := [.error (.fault .value (.text "gone"))] } }
    let life : ListingLife (.productSets "projects/shop/locations/east") :=
      { desk := ⟨⟨"shop", "east"⟩, {}, []⟩
        taking := ⟨.listProductSets "a", replaced⟩
        handle := "a"
        steps :=
          [⟨.listProducts "shoes" "b", replaced⟩, ⟨.next "a", scripted⟩, ⟨.next "b", replaced⟩,
            ⟨.get "shoes", replaced⟩, ⟨.next "a", replaced⟩]
        takes := by decide
        undisturbed := by simp [Request.handle?] }
    life.turns.flatMap (·.trace.fetches) = [0, 1] ∧
      life.turns.map (·.result) =
        [.ok (.entry (.productSet { name := "sets/x" })),
          .ok (.entry (.productSet { name := "sets/y" }))] := by
  intro scripted replaced life
  obtain ⟨-, -, -, follow⟩ := listing_turns life
  obtain ⟨-, -, given, -, -⟩ := follow ⟨{}, scripted⟩ rfl
  obtain ⟨t, u, turns, ht, hu⟩ : ∃ t u, life.turns = [t, u] ∧ t.Yields ∧ u.Yields :=
    ⟨_, _, rfl, ⟨_, rfl⟩, ⟨_, rfl⟩⟩
  have two : life.turns.length = 2 := by rw [turns]; rfl
  have yields : ∀ t ∈ life.turns.take 2, t.Yields := by
    rw [turns]
    simp [ht, hu]
  obtain ⟨fetches, results⟩ := given 2 (Nat.le_of_eq two.symm) yields
  rw [List.take_of_length_le (Nat.le_of_eq two)] at fetches results
  exact ⟨fetches, results⟩

end CatalogConsole
