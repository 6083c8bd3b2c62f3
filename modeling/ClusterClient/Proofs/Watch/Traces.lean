import ClusterClient.Watch
import Mathlib.Data.List.Induction

namespace ClusterClient.Watch

namespace Notice

def isConnected : Notice → Bool
  | connected => true
  | _ => false

def isDisconnected : Notice → Bool
  | disconnected => true
  | _ => false

/-- Whether a listener takes the watch to be connected after a notice. To hear of a disconnection
makes no sense to one that does not. -/
def follow (linked : Bool) : Notice → Option Bool
  | connected => some true
  | disconnected => if linked then some false else none
  | _ => some linked

/-- The notices make sense to a listener from first to last. -/
def Follows (linked : Bool) (notices : List Notice) (later : Bool) : Prop :=
  notices.foldlM follow linked = some later

variable {linked later : Bool} {notices front rest : List Notice}

theorem follows_append : Follows linked (front ++ rest) later ↔
    ∃ between, Follows linked front between ∧ Follows between rest later := by
  simp [Follows, List.foldlM_append, Option.bind_eq_some_iff]

theorem follows_cons {notice : Notice} : Follows linked (notice :: rest) later ↔
    ∃ between, follow linked notice = some between ∧ Follows between rest later := by
  simp [Follows, List.foldlM_cons, Option.bind_eq_some_iff]

/-- Every disconnection undoes a connection of its own. -/
theorem Follows.countP_le (follows : Follows linked notices later) :
    notices.countP isDisconnected + later.toNat ≤ notices.countP isConnected + linked.toNat := by
  induction notices generalizing linked with
  | nil =>
    cases follows
    exact Nat.le_refl _
  | cons notice rest ih =>
    obtain ⟨between, first, follows⟩ := follows_cons.mp follows
    have bound := ih follows
    rw [List.countP_cons, List.countP_cons]
    cases notice with
    | connected =>
      cases first
      rw [Bool.toNat_true] at bound
      simp only [isConnected, isDisconnected, if_true, if_false, Bool.false_eq_true]
      omega
    | disconnected =>
      obtain ⟨rfl, same⟩ := Option.ite_none_right_eq_some.mp first
      cases same
      rw [Bool.toNat_false] at bound
      simp only [isConnected, isDisconnected, if_true, if_false, Bool.false_eq_true, Bool.toNat_true]
      omega
    | event event =>
      cases first
      exact bound
    | failed error =>
      cases first
      exact bound

/-- Who is not connected and then is has heard of a connection. -/
theorem Follows.connected_mem (follows : Follows false notices true) : .connected ∈ notices := by
  induction notices with
  | nil => cases follows
  | cons notice rest ih =>
    obtain ⟨between, first, follows⟩ := follows_cons.mp follows
    cases notice with
    | connected => exact List.mem_cons_self
    | disconnected => cases first
    | event event =>
      cases first
      exact List.mem_cons_of_mem _ (ih follows)
    | failed error =>
      cases first
      exact List.mem_cons_of_mem _ (ih follows)

theorem Follows.prefix_countP_le (follows : Follows false notices later)
    (first : front <+: notices) : front.countP isDisconnected ≤ front.countP isConnected := by
  obtain ⟨rest, rfl⟩ := first
  obtain ⟨between, follows, -⟩ := follows_append.mp follows
  have bound := follows.countP_le
  rw [Bool.toNat_false] at bound
  omega

theorem Follows.connected_mem_between {middle : List Notice}
    (follows : Follows linked (front ++ .disconnected :: middle ++ .disconnected :: rest) later) :
    .connected ∈ middle := by
  obtain ⟨_, follows, last⟩ := follows_append.mp follows
  obtain ⟨_, -, follows⟩ := follows_append.mp follows
  obtain ⟨_, first, follows⟩ := follows_cons.mp follows
  obtain ⟨_, second, -⟩ := follows_cons.mp last
  -- Both disconnections make sense, so the first leaves the listener unconnected and the second
  -- finds it connected.
  rw [follow, Option.ite_none_right_eq_some] at first second
  obtain ⟨-, first⟩ := first
  obtain ⟨linked, -⟩ := second
  cases first
  cases linked
  exact follows.connected_mem

end Notice

namespace Step

/-- Whether a step is about the connection, and not about a message. -/
def isOfConnection : Step → Bool
  | message _ => false
  | _ => true

/-- The last of some steps that is about the connection. -/
def lastOfConnection? (steps : List Step) : Option Step := (steps.filter isOfConnection).getLast?

theorem lastOfConnection?_append_singleton (steps : List Step) (step : Step) :
    lastOfConnection? (steps ++ [step]) =
      if step.isOfConnection then some step else lastOfConnection? steps := by
  unfold lastOfConnection?
  split
  · next about => simp [about]
  · next other => simp [other]

end Step

/-- What a message is heard as. The URL of the watch is in nothing but the failures that a message
reports. -/
def told (url : String) (materializer : Materializer) (text : String) : Notice :=
  match Message.ofText? text with
  | none => .failed .materialization
  | some ⟨.failure, object⟩ => .failed (Channel.failure url object)
  | some ⟨.change change, object⟩ =>
    match materializer.materialize object with
    | .ok resource => .event ⟨change, resource⟩
    | .error error => .failed error

/-- What is heard of a step that comes after others. -/
def toldAfter (url : String) (materializer : Materializer) (before : List Step) : Step → List Notice
  | .connected => [.connected]
  | .closed code reason =>
    (if 200 ≤ code ∧ code ≤ 299 ∨ code = 1000 then []
      else [.failed (Error.ofResponse url code reason)]) ++
    if Step.lastOfConnection? before = some .connected then [.disconnected] else []
  | .message text => [told url materializer text]

section

variable {url : String} {materializer : Materializer} {text : String} {event : Event}

theorem told_eq_event_iff : told url materializer text = .event event ↔
    ∃ object, Message.ofText? text = some ⟨.change event.change, object⟩ ∧
      materializer.materialize object = .ok event.resource := by
  unfold told
  split
  · next read => simp [read]
  · next object read => simp [read]
  · next change object read =>
    rw [read]
    cases made : materializer.materialize object with
    | ok resource =>
      obtain ⟨change', resource'⟩ := event
      simp [made]
    | error error => simp [made]

theorem told_cases (url : String) (materializer : Materializer) (text : String) :
    (∃ event, told url materializer text = .event event) ∨
      ∃ error, told url materializer text = .failed error := by
  unfold told
  split
  · exact .inr ⟨_, rfl⟩
  · exact .inr ⟨_, rfl⟩
  · split
    · exact .inl ⟨_, rfl⟩
    · exact .inr ⟨_, rfl⟩

theorem disconnected_mem_toldAfter {before : List Step} {step : Step} :
    .disconnected ∈ toldAfter url materializer before step ↔
      (∃ code reason, step = .closed code reason) ∧
        Step.lastOfConnection? before = some .connected := by
  cases step with
  | connected => simp [toldAfter]
  | closed code reason =>
    rw [toldAfter]
    split <;> split <;> simp [*]
  | message text =>
    rcases told_cases url materializer text with ⟨event, heard⟩ | ⟨error, heard⟩ <;>
      simp [toldAfter, heard]

theorem event_mem_toldAfter {before : List Step} {step : Step} :
    .event event ∈ toldAfter url materializer before step ↔
      ∃ text object, step = .message text ∧
        Message.ofText? text = some ⟨.change event.change, object⟩ ∧
        materializer.materialize object = .ok event.resource := by
  cases step with
  | connected => simp [toldAfter]
  | closed code reason =>
    rw [toldAfter]
    split <;> split <;> simp
  | message text =>
    rw [toldAfter, List.mem_singleton, eq_comm, told_eq_event_iff]
    simp

end

namespace Channel

def after (channel : Channel) (steps : List Step) : Channel :=
  steps.foldl (fun channel step => (channel.step step).1) channel

/-- All that a listener hears of some steps. -/
def heard (channel : Channel) (listener : Listener) (steps : List Step) : List Notice :=
  ((channel.run steps).flatMap (·.2)).filter listener.hears

theorem after_append_singleton (channel : Channel) (steps : List Step) (step : Step) :
    channel.after (steps ++ [step]) = ((channel.after steps).step step).1 := by
  rw [after, List.foldl_append]
  rfl

theorem run_append (channel : Channel) (steps others : List Step) :
    channel.run (steps ++ others) = channel.run steps ++ (channel.after steps).run others := by
  induction steps generalizing channel with
  | nil => rfl
  | cons step rest ih => exact congrArg (_ :: ·) (ih _)

theorem heard_attentive (channel : Channel) (steps : List Step) :
    channel.heard .attentive steps = (channel.run steps).flatMap (·.2) := by
  simp [heard, Listener.attentive]

theorem step_channel (channel : Channel) (step : Step) :
    (channel.step step).1 =
      { channel with isConnected :=
          if step.isOfConnection then step == .connected else channel.isConnected } := by
  cases step <;> rfl

theorem step_message (channel : Channel) (text : String) :
    channel.step (.message text) = (channel, [told channel.url channel.materializer text]) := by
  rw [step, decode, told]
  cases Message.ofText? text with
  | none => rfl
  | some message =>
    obtain ⟨type, object⟩ := message
    cases type with
    | failure => rfl
    | change change =>
      cases made : channel.materializer.materialize object with
      | ok resource => simp only [made, Except.map]
      | error error => simp only [made, Except.map]

/-- What is heard of a step makes sense to who knows whether the channel was connected. -/
theorem step_follows (channel : Channel) (step : Step) :
    Notice.Follows channel.isConnected (channel.step step).2 (channel.step step).1.isConnected := by
  cases step with
  | connected => rfl
  | closed code reason =>
    obtain ⟨url, materializer, isConnected⟩ := channel
    rw [Channel.step]
    cases isConnected <;> cases isRegularEnd code <;> rfl
  | message text =>
    rw [step_message]
    rcases told_cases channel.url channel.materializer text with ⟨event, heard⟩ | ⟨error, heard⟩ <;>
      rw [heard] <;> rfl

theorem run_follows (channel : Channel) (steps : List Step) :
    Notice.Follows channel.isConnected (channel.heard .attentive steps)
      (channel.after steps).isConnected := by
  rw [heard_attentive]
  induction steps using List.reverseRecOn with
  | nil => rfl
  | append_singleton steps step ih =>
    -- The last step starts where the others leave the channel, and that is what the listener takes
    -- it to be by then.
    rw [run_append, List.flatMap_append, after_append_singleton]
    refine Notice.follows_append.mpr ⟨_, ih, ?_⟩
    exact (List.flatMap_singleton _ _) ▸ (channel.after steps).step_follows step

/-- A channel is connected if the last step about its connection made it. -/
theorem after_eq (url : String) (materializer : Materializer) (steps : List Step) :
    after { url, materializer } steps =
      { url, materializer, isConnected := Step.lastOfConnection? steps == some .connected } := by
  induction steps using List.reverseRecOn with
  | nil => rfl
  | append_singleton steps step ih =>
    rw [after_append_singleton, step_channel, ih, Step.lastOfConnection?_append_singleton]
    split <;> rfl

theorem step_toldAfter (url : String) (materializer : Materializer) (before : List Step)
    (step : Step) :
    ((after { url, materializer } before).step step).2 = toldAfter url materializer before step := by
  rw [after_eq]
  cases step with
  | connected => rfl
  | closed code reason =>
    have regular : isRegularEnd code = true ↔ 200 ≤ code ∧ code ≤ 299 ∨ code = 1000 := by
      simp [isRegularEnd, Nat.lt_succ_iff]
    simp only [Channel.step, toldAfter, regular, beq_iff_eq]
  | message text => rw [step_message, toldAfter]

/-- What is heard of a watch, whatever happens to it: each step adds what it is told as, which
depends on the steps before it only for a disconnection. So nobody hears of a disconnection without
a connection that it undoes. -/
theorem run_trace (url : String) (materializer : Materializer) :
    let channel : Channel := { url, materializer }
    (∀ steps, (channel.after steps).isConnected = true ↔
      Step.lastOfConnection? steps = some .connected) ∧
    (∀ steps step, channel.run (steps ++ [step]) = channel.run steps ++
      [(channel.after (steps ++ [step]), toldAfter url materializer steps step)]) ∧
    (∀ steps step, .disconnected ∈ toldAfter url materializer steps step ↔
      (∃ code reason, step = .closed code reason) ∧ (channel.after steps).isConnected = true) ∧
    (∀ steps text, channel.after (steps ++ [.message text]) = channel.after steps ∧
      ((∃ event, told url materializer text = .event event) ∨
        ∃ error, told url materializer text = .failed error)) ∧
    (∀ steps step event, .event event ∈ toldAfter url materializer steps step ↔
      ∃ text object, step = .message text ∧
        Message.ofText? text = some ⟨.change event.change, object⟩ ∧
        materializer.materialize object = .ok event.resource) ∧
    (∀ steps front, front <+: channel.heard .attentive steps →
      front.countP Notice.isDisconnected ≤ front.countP Notice.isConnected) ∧
    ∀ steps front middle rest, channel.heard .attentive steps =
      front ++ .disconnected :: middle ++ .disconnected :: rest → .connected ∈ middle := by
  intro channel
  have connected (steps : List Step) : (channel.after steps).isConnected = true ↔
      Step.lastOfConnection? steps = some .connected := by rw [after_eq, beq_iff_eq]
  refine ⟨connected, fun steps step => ?_, fun steps step => ?_, fun steps text => ?_,
    fun steps step event => event_mem_toldAfter, fun steps front first => ?_,
    fun steps front middle rest split => ?_⟩
  · rw [run_append, after_append_singleton, ← step_toldAfter]
    rfl
  · rw [disconnected_mem_toldAfter, connected]
  · rw [after_append_singleton, step_message]
    exact ⟨rfl, told_cases url materializer text⟩
  · exact (channel.run_follows steps).prefix_countP_le first
  · have follows := channel.run_follows steps
    rw [split] at follows
    exact follows.connected_mem_between

/-- A connection that ends twice is heard to end once. -/
theorem run_trace_twice :
    let channel : Channel := { url := "https://c.example/api/v1/watch/pods", materializer := {} }
    let steps : List Step := [.connected, .closed 1000 "", .closed 500 "gone", .connected, .closed 200 ""]
    let lost : Notice := .failed (Error.ofResponse channel.url 500 "gone")
    channel.heard .attentive steps = [.connected, .disconnected, lost, .connected, .disconnected] ∧
      .connected ∈ [lost, .connected] ∧
      [Notice.connected, .disconnected, lost].countP Notice.isDisconnected ≤
        [Notice.connected, .disconnected, lost].countP Notice.isConnected := by
  intro channel steps lost
  have heard : channel.heard .attentive steps =
      [.connected, .disconnected, lost, .connected, .disconnected] := by rfl
  obtain ⟨-, -, -, -, -, bounded, between⟩ := run_trace channel.url channel.materializer
  refine ⟨heard, between steps [.connected] [lost, .connected] [] heard, bounded steps _ ?_⟩
  exact ⟨[.connected, .disconnected], heard.symm⟩

end Channel

end ClusterClient.Watch
