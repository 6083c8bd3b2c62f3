import ClusterClient.Http
import Mathlib.Data.List.Forall2
import Mathlib.Data.List.Induction

namespace ClusterClient

/-- An exchange that ends in one value, whatever was sent before it. -/
def Wire.Yields {α : Type} (exchange : Wire α) (value : α) : Prop :=
  ∀ sent, (exchange.run sent).1 = value

namespace Wire.Yields

variable {α β : Type}

theorem pure (value : α) : Yields (Pure.pure value) value := fun _ => rfl

theorem bind {exchange : Wire α} {next : α → Wire β} {value : α} {result : β}
    (first : exchange.Yields value) (second : (next value).Yields result) :
    Yields (exchange >>= next) result := by
  intro sent
  rw [StateT.run_bind]
  have reached := second (exchange.run sent).2
  rw [← first sent] at reached
  exact reached

theorem mapM {step : α → Wire β} {result : α → β} (yields : ∀ item, (step item).Yields (result item))
    (items : List α) : Yields (items.mapM step) (items.map result) := by
  induction items with
  | nil => exact pure []
  | cons item rest ih =>
    rw [List.mapM_cons, List.map_cons]
    exact (yields item).bind (ih.bind (pure _))

theorem foldlM {step : β → α → Wire β} {result : β → α → β}
    (yields : ∀ state item, (step state item).Yields (result state item)) (items : List α)
    (state : β) : Yields (items.foldlM step state) (items.foldl result state) := by
  induction items generalizing state with
  | nil => exact pure state
  | cons item rest ih =>
    rw [List.foldlM_cons, List.foldl_cons]
    exact (yields state item).bind (ih _)

end Wire.Yields

/-- An exchange that ends in values of one sort, whatever was sent before it. -/
def Wire.Ensures {α : Type} (holds : α → Prop) (exchange : Wire α) : Prop :=
  ∀ sent, holds (exchange.run sent).1

namespace Wire.Ensures

variable {α β : Type}

theorem anything (exchange : Wire α) : exchange.Ensures fun _ => True := fun _ => trivial

theorem pure {holds : α → Prop} {value : α} (held : holds value) :
    Ensures holds (Pure.pure value) := fun _ => held

theorem bind {holds : α → Prop} {result : β → Prop} {exchange : Wire α} {next : α → Wire β}
    (first : exchange.Ensures holds) (second : ∀ value, holds value → (next value).Ensures result) :
    Ensures result (exchange >>= next) := by
  intro sent
  rw [StateT.run_bind]
  exact second (exchange.run sent).1 (first sent) (exchange.run sent).2

theorem mapM {holds : α → β → Prop} {step : α → Wire β} {items : List α}
    (ensures : ∀ item ∈ items, (step item).Ensures (holds item)) :
    Ensures (List.Forall₂ holds items) (items.mapM step) := by
  induction items with
  | nil => exact pure .nil
  | cons item rest ih =>
    obtain ⟨first, others⟩ := List.forall_mem_cons.mp ensures
    rw [List.mapM_cons]
    refine first.bind fun value held => (ih others).bind fun values allHeld => ?_
    exact pure (.cons held allHeld)

theorem foldlM {holds : β → Prop} {step : β → α → Wire β} {items : List α}
    (keeps : ∀ state item, item ∈ items → holds state → (step state item).Ensures holds)
    {state : β} (start : holds state) : Ensures holds (items.foldlM step state) := by
  induction items generalizing state with
  | nil => exact pure start
  | cons item rest ih =>
    rw [List.foldlM_cons]
    refine (keeps state item List.mem_cons_self start).bind fun next held => ?_
    exact ih (fun state other member => keeps state other (List.mem_cons_of_mem _ member)) held

/-- What holds of a state may speak of the items that have led to it. -/
theorem foldlM_along {holds : List α → β → Prop} {step : β → α → Wire β}
    (keeps : ∀ before item state, holds before state →
      (step state item).Ensures (holds (before ++ [item])))
    {state : β} (start : holds [] state) (items : List α) :
    Ensures (holds items) (items.foldlM step state) := by
  induction items using List.reverseRecOn with
  | nil => exact pure start
  | append_singleton items item ih =>
    rw [List.foldlM_append]
    refine ih.bind fun next held => ?_
    rw [List.foldlM_cons]
    exact (keeps items item next held).bind fun _ held => pure held

end Wire.Ensures

/-- An exchange whose requests are all of one sort. -/
def Wire.Sends {α : Type} (allowed : Http.Request → Prop) (exchange : Wire α) : Prop :=
  ∀ sent, ∃ new, (exchange.run sent).2 = sent ++ new ∧ ∀ request ∈ new, allowed request

namespace Wire.Sends

variable {α β : Type} {allowed : Http.Request → Prop}

theorem pure (value : α) : Sends allowed (Pure.pure value) :=
  fun sent => ⟨[], (List.append_nil sent).symm, fun _ member => by cases member⟩

theorem bind {exchange : Wire α} {next : α → Wire β} (first : exchange.Sends allowed)
    (second : ∀ value, (next value).Sends allowed) : Sends allowed (exchange >>= next) := by
  intro sent
  obtain ⟨early, afterFirst, earlyAllowed⟩ := first sent
  obtain ⟨late, afterSecond, lateAllowed⟩ := second (exchange.run sent).1 (exchange.run sent).2
  refine ⟨early ++ late, ?_, fun request member => ?_⟩
  · rw [StateT.run_bind, ← List.append_assoc, ← afterFirst]
    exact afterSecond
  · rcases List.mem_append.mp member with inEarly | inLate
    · exact earlyAllowed request inEarly
    · exact lateAllowed request inLate

theorem mapM {step : α → Wire β} (sends : ∀ item, (step item).Sends allowed) (items : List α) :
    Sends allowed (items.mapM step) := by
  induction items with
  | nil => exact pure []
  | cons item rest ih =>
    rw [List.mapM_cons]
    exact (sends item).bind fun _ => ih.bind fun _ => pure _

theorem foldlM {step : β → α → Wire β} (sends : ∀ state item, (step state item).Sends allowed)
    (items : List α) (state : β) : Sends allowed (items.foldlM step state) := by
  induction items generalizing state with
  | nil => exact pure state
  | cons item rest ih =>
    rw [List.foldlM_cons]
    exact (sends state item).bind ih

end Wire.Sends

namespace Transport

variable {transport : Transport} {method : Http.Method} {url : String} {body : Option (List UInt8)}

theorem request?_eq_some {destination : Url} {request : Http.Request}
    (made : transport.request? method url body = some (destination, request)) :
    request.method = method ∧ request.url = url := by
  unfold request? at made
  split at made
  · cases made
  · obtain ⟨found, _, made⟩ := Option.bind_eq_some_iff.mp made
    cases made
    exact ⟨rfl, rfl⟩

theorem send_run_none (made : transport.request? method url body = none)
    (sent : List Http.Request) : (transport.send method url body).run sent = (none, sent) := by
  rw [send, made]
  rfl

/-- A request that can be made is sent once, and whether the server receives it or not. -/
theorem send_run_made {destination : Url} {request : Http.Request}
    (made : transport.request? method url body = some (destination, request))
    (sent : List Http.Request) :
    (transport.send method url body).run sent = (
      if transport.server.receives destination then transport.server.answer sent request else none,
      sent ++ [request]) := by
  rw [send, made]
  cases arrives : transport.server.receives destination with
  | true =>
    simp only [arrives, if_true]
    rfl
  | false =>
    simp only [arrives, Bool.false_eq_true, if_false]
    rfl

theorem send_run_some {destination : Url} {request : Http.Request}
    (made : transport.request? method url body = some (destination, request))
    (sent : List Http.Request) :
    ∃ response, (transport.send method url body).run sent = (response, sent ++ [request]) :=
  ⟨_, send_run_made made sent⟩

theorem send_sends (transport : Transport) (method : Http.Method) (url : String)
    (body : Option (List UInt8)) :
    (transport.send method url body).Sends (·.method = method) := by
  intro sent
  cases made : transport.request? method url body with
  | none =>
    refine ⟨[], ?_, fun _ member => by cases member⟩
    rw [send_run_none made, List.append_nil]
  | some found =>
    obtain ⟨response, sending⟩ := send_run_some made sent
    refine ⟨[found.2], by rw [sending], fun request member => ?_⟩
    rw [List.mem_singleton.mp member]
    exact (request?_eq_some made).1

theorem fetch_sends {α : Type} (transport : Transport) (read : Json.Tree → Option α)
    (url : String) : (transport.fetch read url).Sends (·.method = .get) :=
  (transport.send_sends .get url none).bind fun _ => .pure _

/-- The requests that get some documents; none for a URL that no request can be made for. -/
def gets (transport : Transport) (urls : List String) : List Http.Request :=
  urls.filterMap fun url => (transport.request? .get url none).map (·.2)

theorem gets_append (transport : Transport) (urls urls' : List String) :
    transport.gets (urls ++ urls') = transport.gets urls ++ transport.gets urls' :=
  List.filterMap_append

end Transport

/-- An exchange that gets the documents at some URLs, each once and in order, and sends nothing
else. -/
def Wire.Gets {α : Type} (transport : Transport) (urls : List String) (exchange : Wire α) : Prop :=
  ∀ sent, (exchange.run sent).2 = sent ++ transport.gets urls

namespace Wire.Gets

variable {α β : Type} {transport : Transport} {urls urls' : List String}

theorem pure (value : α) : Gets transport [] (Pure.pure value) :=
  fun sent => (List.append_nil sent).symm

theorem bind {exchange : Wire α} {next : α → Wire β} (first : exchange.Gets transport urls)
    (second : ∀ value, (next value).Gets transport urls') :
    Gets transport (urls ++ urls') (exchange >>= next) := by
  intro sent
  calc ((exchange >>= next).run sent).2
      = (exchange.run sent).2 ++ transport.gets urls' := second _ _
    _ = sent ++ transport.gets (urls ++ urls') := by
      rw [first sent, List.append_assoc, Transport.gets_append]

theorem mapM {step : α → Wire β} {url : α → String}
    (gets : ∀ item, (step item).Gets transport [url item]) (items : List α) :
    Gets transport (items.map url) (items.mapM step) := by
  induction items with
  | nil => exact pure []
  | cons item rest ih =>
    rw [List.mapM_cons]
    have kept (value : β) : Gets transport (rest.map url) (do
        let values ← rest.mapM step
        return value :: values) := by
      have others := ih.bind fun values => (pure (value :: values) : Gets transport [] _)
      rwa [List.append_nil] at others
    exact (gets item).bind kept

theorem foldlM {step : β → α → Wire β} {url : α → String}
    (gets : ∀ state item, (step state item).Gets transport [url item]) (items : List α) (state : β) :
    Gets transport (items.map url) (items.foldlM step state) := by
  induction items generalizing state with
  | nil => exact pure state
  | cons item rest ih =>
    rw [List.foldlM_cons]
    exact (gets state item).bind fun next => ih next

end Wire.Gets

theorem Transport.fetch_gets {α : Type} (transport : Transport) (read : Json.Tree → Option α)
    (url : String) : (transport.fetch read url).Gets transport [url] := by
  have sending : (transport.send .get url none).Gets transport [url] := by
    intro sent
    cases made : transport.request? .get url none with
    | none =>
      rw [send_run_none made, gets, List.filterMap_cons_none (by rw [made]; rfl)]
      exact (List.append_nil sent).symm
    | some found =>
      obtain ⟨response, sent⟩ := send_run_some made sent
      rw [sent, gets, List.filterMap_cons_some (by rw [made]; rfl)]
      rfl
  exact sending.bind fun _ => .pure _

end ClusterClient
