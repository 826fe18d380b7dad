import CircuitBreaker.Proofs.Visits

/-!
# Deliveries

What the visit of an event hands to the breaker, call by call and all at the instant of the event: a
crossing that is due then, a poll, and after them every edge of the switch.
-/

set_option autoImplicit false

namespace CircuitBreaker.Emulator

/-- A crossing that is due is passed by the mains and handed to the breaker. -/
inductive Crosses (now : Nat) (before : SimulatedBreaker) : SimulatedBreaker → Prop where
  | due {after : SimulatedBreaker} (next : before.mains.nextCrossing = some now)
      (handed : { before with mains := before.mains.pass now }.handleInput .zeroCrossing now =
        .ok after) : Crosses now before after
  | undue (next : before.mains.nextCrossing ≠ some now) : Crosses now before before

/-- The edges of the switch are handed to the breaker, the oldest first, until none is left. -/
inductive Feeds (now : Nat) : SimulatedBreaker → List Input → SimulatedBreaker → Prop where
  | done {breaker : SimulatedBreaker} (quiet : breaker.switch.edges = []) :
      Feeds now breaker [] breaker
  | feed {before after final : SimulatedBreaker} {edge : Input} {waiting later : List Input}
      (oldest : before.switch.edges = edge :: waiting)
      (handed : { before with switch := { before.switch with edges := waiting } }.handleInput edge
        now = .ok after)
      (rest : Feeds now after later final) : Feeds now before (edge :: later) final

theorem Feeds.quiet {now : Nat} {before after : SimulatedBreaker} {edges : List Input}
    (feeds : Feeds now before edges after) : after.switch.edges = [] := by
  induction feeds with
  | done quiet => exact quiet
  | feed _ _ _ ih => exact ih

/-- An event takes a session to another one, in which the notice of it has been told. -/
inductive Delivers (event : Nat) (before after : Session) : Prop where
  | visit {crossed polled fed : SimulatedBreaker} {edges : List Input}
      (crosses : Crosses event before.breaker crossed)
      (polls : crossed.poll event = .ok polled)
      (feeds : Feeds event polled edges fed)
      (stands : after.now = event)
      (told : after.breaker = { fed with pending := none })
      (output : after.output = before.output ++ (fed.pending.map (Session.noticeLine event)).toList)

/-- After an event no edge waits, and no notice does. -/
theorem Delivers.rests {event : Nat} {before after : Session}
    (delivers : Delivers event before after) :
    after.breaker.switch.edges = [] ∧ after.breaker.pending = none := by
  obtain ⟨_, _, feeds, _, told, _⟩ := delivers
  rw [told]
  exact ⟨feeds.quiet, rfl⟩

namespace Session

variable (session : Session)

theorem output_input (input : Input) : (session.input input).output = session.output := by
  unfold Session.input
  cases session.breaker.handleInput input session.now <;> rfl

theorem output_poll : session.poll.output = session.output := by
  unfold Session.poll
  cases session.breaker.poll session.now <;> rfl

theorem output_cross : session.cross.output = session.output := by
  unfold cross
  dsimp only
  split
  · rw [output_input]
    rfl
  · rfl

theorem announce_told :
    session.announce.breaker = { session.breaker with pending := none } ∧
      session.announce.output =
        session.output ++ (session.breaker.pending.map (noticeLine session.now)).toList := by
  unfold announce Breaker.dispatchNotice
  cases session.breaker.pending with
  | none => exact ⟨rfl, (List.append_nil _).symm⟩
  | some notice => exact ⟨rfl, rfl⟩

end Session

namespace Sound

variable {session : Session}

private theorem crosses (sound : Sound Settled session.breaker) :
    Crosses session.now session.breaker session.cross.breaker := by
  by_cases due : session.breaker.mains.nextCrossing = some session.now
  · let passed := (session.withMains (session.breaker.mains.pass session.now)).watch
    have kept : passed.breaker.InSession := ⟨sound.session.initialized, sound.session.ready⟩
    obtain ⟨after, accepted, _⟩ := kept.handleInput .zeroCrossing session.now
    refine .due due ?_
    rw [Session.cross_of_due due, Session.breaker_input, Breaker.act]
    rw [show passed.breaker.handleInput .zeroCrossing passed.now = .ok after from accepted]
    exact accepted
  · rw [Session.cross_of_undue due]
    exact .undue due

private theorem polls (sound : Sound Tracks session.breaker) :
    session.breaker.poll session.now = .ok session.poll.breaker := by
  obtain ⟨_, after, accepted, _⟩ := @Breaker.InSession.poll _ _ _ _ _ _ _ sound.session session.now
    (fun _ => True) trivial (fun _ _ _ _ _ _ _ _ => trivial)
  rw [Session.breaker_poll, Breaker.act, accepted]
  rfl

private theorem feeds (sound : Sound Tracks session.breaker) :
    ∃ edges fed, Feeds session.now session.breaker edges fed ∧
      session.settle.breaker = { fed with pending := none } ∧
      session.settle.output =
        session.output ++ (fed.pending.map (Session.noticeLine session.now)).toList := by
  rcases sound.settle_cases with
    ⟨same, settled⟩ | ⟨closed, after, _, edges, handed, settled, same⟩
  · rw [same]
    exact ⟨[], session.breaker, .done settled.position.edges, session.announce_told⟩
  · rw [same]
    refine ⟨[.switchChanged closed], after, .feed edges handed (.done settled.position.edges), ?_⟩
    exact { session with breaker := after }.watch.announce_told

/-- Every visit delivers its event. -/
theorem delivers (sound : Sound Settled session.breaker) (event : Nat) :
    Delivers event session (session.visit event) := by
  have here : Sound Settled { session with now := event }.breaker := sound
  have crossing := here.crosses
  have sounds := here.cross
  have output := Session.output_cross { session with now := event }
  have stands := Session.now_cross { session with now := event }
  rw [Session.visit]
  generalize { session with now := event }.cross = crossed at crossing sounds output stands ⊢
  have polling := sounds.polls
  obtain ⟨edges, fed, feeding, told, line⟩ := sounds.poll.feeds
  rw [Session.now_poll, stands] at feeding line
  rw [stands] at polling
  rw [Session.output_poll, output] at line
  refine .visit crossing polling feeding ?_ told line
  rw [Session.now_settle, Session.now_poll, stands]

end Sound

end CircuitBreaker.Emulator
