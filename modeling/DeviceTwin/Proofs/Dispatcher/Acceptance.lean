/-
When the frame of a request is accepted.

A request is registered before its frame is handed over, and from then on
its timer runs. A full transport keeps the frame in line meanwhile, for as
long as the send timeout, which is a clock of its own, and whoever is in
line is not looked at. So when a place becomes free the frame is accepted
even if the request has timed out by then or the client was closed
(`accepted_after_timeout`): that a request is sent does not mean that
somebody waits for the reply.

What does hold is `accepted_requests_are_registered`. The request was
registered, holds its reply, and still waits for a message or has it,
unless its own timer fired or the client was closed while the frame was in
line; then its caller is told so and waits no longer. A timer cannot fire
in line if the wait for room, which begins with the request, ends by the
deadline of the request (`Acceptance.in_time`).
-/
import DeviceTwin.Proofs.Dispatcher.Punctual
import Mathlib.Data.List.Induction

namespace DeviceTwin.Dispatcher

variable {config : Config} {d : Dispatcher} {id : Nat} {m : Move}

-- ============================================================ where it happens

/-- A move of two runs one after the other is one of the first or of the
second. -/
theorem split_append {first second pre post : List Move}
    (h : first ++ second = pre ++ m :: post) :
    (∃ rest, first = pre ++ m :: rest)
    ∨ ∃ rest, pre = first ++ rest ∧ second = rest ++ m :: post := by
  rcases List.append_eq_append_iff.mp h with ⟨rest, hpre, hsecond⟩ | ⟨rest, hfirst, hm⟩
  · exact .inr ⟨rest, hpre, hsecond⟩
  · cases rest with
    | nil =>
        rw [List.append_nil] at hfirst
        exact .inr ⟨[], by rw [List.append_nil, hfirst], hm.symm⟩
    | cons m' rest =>
        obtain ⟨rfl, -⟩ := List.cons.inj hm
        exact .inl ⟨rest, hfirst⟩

/-- A move of operations one after the other is a move of one of them, in
the state that the operations before it lead to. -/
theorem exists_operation {ops : List Operation} :
    ∀ {d : Dispatcher} {pre post : List Move}, d.service ops = pre ++ m :: post →
      ∃ first op rest pre' post', ops = first ++ op :: rest
        ∧ pre = d.service first ++ pre' ∧ (d.serve first).moves op = pre' ++ m :: post' := by
  induction ops with
  | nil =>
      intro d pre post h
      simp [service] at h
  | cons op ops ih =>
      intro d pre post h
      obtain ⟨rest, hmoves⟩ | ⟨rest, rfl, hlater⟩ := split_append h
      · exact ⟨[], op, ops, pre, rest, rfl, rfl, hmoves⟩
      · obtain ⟨first, op', last, pre', post', rfl, rfl, hm⟩ := ih hlater
        refine ⟨op :: first, op', last, pre', post', rfl, ?_, hm⟩
        rw [service, List.append_assoc]

/-- No two requests start with one number. -/
theorem enter_unique {before before' after after' : List Move} {now now' : Nat}
    {fresh fresh' : String} {r r' : Request}
    (h : before ++ .enter now fresh r :: after = before' ++ .enter now' fresh' r' :: after')
    (hnumber : (d.run before).nextCall = (d.run before').nextCall) : now = now' := by
  -- between two starts the next number grows
  have hgrows : ∀ (first rest : List Move) (now : Nat) (fresh : String) (r : Request),
      (d.run first).nextCall < (d.run (first ++ .enter now fresh r :: rest)).nextCall := by
    intro first rest now fresh r
    rw [run_append, run_cons]
    refine Nat.lt_of_lt_of_le ?_ (nextCall_le_run _ rest)
    exact Nat.lt_of_lt_of_eq (Nat.lt_succ_self _) (nextCall_enter _ now fresh r).symm
  obtain ⟨rest, rfl⟩ | ⟨rest, rfl, hlater⟩ := split_append h
  · exact absurd hnumber (Nat.ne_of_gt (hgrows before' rest now' fresh' r'))
  · cases rest with
    | nil =>
        obtain ⟨hsame, -⟩ := List.cons.inj hlater
        exact (Move.enter.inj hsame).1
    | cons m rest =>
        obtain ⟨rfl, -⟩ := List.cons.inj hlater
        exact absurd hnumber (Nat.ne_of_lt (hgrows before rest now fresh r))

/-- Nobody is accepted in settling. -/
theorem accepted_not_mem_settling (d : Dispatcher) (now id : Nat) :
    .answer id (.ok ()) ∉ d.settling now := by
  simp [settling, due, answers, Outbox.expire]

theorem accepted_in_opening {op : Operation} {pre post : List Move}
    (h : d.moves op = pre ++ .answer id (.ok ()) :: post) :
    ∃ rest, d.opening op = pre ++ .answer id (.ok ()) :: rest := by
  obtain hopening | ⟨rest, -, hsettling⟩ := split_append h
  · exact hopening
  · cases hnow : op.now? with
    | none => simp [hnow] at hsettling
    | some now =>
        rw [hnow] at hsettling
        have hmem : .answer id (.ok ()) ∈ (d.run (d.opening op)).settling now := by
          rw [show (d.run (d.opening op)).settling now = _ from hsettling]
          exact List.mem_append_right _ List.mem_cons_self
        exact absurd hmem (accepted_not_mem_settling _ now id)

/-- Who is in time as it starts is in time until it is accepted. -/
theorem InTime.until_accepted {w : Outbox.Waiting}
    {moves pre rest : List Move} (hs : Sound d) (hin : InTime (d.move m) w)
    (hm : m.call? = none) (hfire : ∀ n, .fire n ∉ pre)
    (h : m :: moves = pre ++ .answer id (.ok ()) :: rest) :
    InTime (d.run pre) w := by
  cases pre with
  | nil =>
      obtain ⟨rfl, -⟩ := List.cons.inj h
      cases hm
  | cons m' pre =>
      obtain ⟨heq, -⟩ := List.cons.inj h
      rw [run_cons, ← heq]
      refine hin.run (hs.move m) fun n hn => ?_
      exact absurd (List.mem_cons_of_mem _ hn) (hfire n)

/-- Who is accepted was in time until then. -/
theorem Punctual.accepted (hs : Sound d) (hp : Punctual config id d) {op : Operation}
    (hop : op.Timely config id d) {pre rest : List Move}
    (h : d.opening op = pre ++ .answer id (.ok ()) :: rest) :
    ∃ w : Outbox.Waiting, w.sender = id ∧ InTime (d.run pre) w := by
  have hfire : ∀ n, .fire n ∉ pre := by
    intro n hn
    refine d.fire_not_mem_opening op n ?_
    rw [h]
    exact List.mem_append_left _ hn
  have hmem : .answer id (.ok ()) ∈ d.opening op := by
    rw [h]
    exact List.mem_append_right _ List.mem_cons_self
  cases op with
  | request now fresh r =>
      obtain rfl : id = d.nextCall := by
        simp only [Dispatcher.opening] at hmem
        split at hmem
        · simp only [Dispatcher.handing, List.mem_cons, reduceCtorEq,
            List.mem_map, false_or] at hmem
          obtain ⟨a, -, heq⟩ := hmem
          exact (Move.answer.inj heq).1.symm
        · simp at hmem
      have hin := hp.inTime_enter hs (hop now fresh r rfl rfl) fresh r
        (d.encode (r.prepared fresh).signal)
      exact ⟨_, rfl, hin.until_accepted hs rfl hfire h⟩
  | emitFrame now f =>
      obtain rfl : id = d.nextCall := by
        simp only [Dispatcher.opening, Dispatcher.handing, List.mem_cons,
          reduceCtorEq, List.mem_map, false_or] at hmem
        obtain ⟨a, -, heq⟩ := hmem
        exact (Move.answer.inj heq).1.symm
      have hin := inTime_emit hs f (d.outbox.sendTimeout.deadline? now)
      exact ⟨_, rfl, hin.until_accepted hs rfl hfire h⟩
  | receive now n =>
      obtain ⟨w, hw, rfl⟩ : ∃ w ∈ d.outbox.line, w.sender = id := by
        simp only [Dispatcher.opening, answers, Outbox.receive,
          Outbox.moveUp, List.map_map, List.mem_cons, reduceCtorEq,
          List.mem_map, false_or] at hmem
        obtain ⟨w, hw, heq⟩ := hmem
        exact ⟨w, List.mem_of_mem_take hw, (Move.answer.inj heq).1⟩
      refine ⟨w, rfl, (hp.line w hw rfl).run hs fun n hn => ?_⟩
      exact absurd hn (hfire n)
  | cancel | inbound | trySend | shutdown | settle =>
      simp [Dispatcher.opening] at hmem
  | disconnect now =>
      simp [Dispatcher.opening, answers, Outbox.disconnect] at hmem

-- =============================================================== acceptances

/-- A request whose frame is accepted in a run of operations, which has no
answer before and is not cancelled before. -/
structure Acceptance (config : Config) (ops : List Operation) extends
    Exchange config ((ofConfig config).service ops) where
  /-- What happens while the frame is in line. -/
  waited : List Move
  later : List Move
  after_eq : after = waited ++ .answer toExchange.callId (.ok ()) :: later
  unanswered : waited.findSome? (Move.answer? toExchange.callId) = none
  kept : .drop toExchange.callId ∉ waited

namespace Acceptance

variable {config : Config} {ops : List Operation} (x : Acceptance config ops)

/-- The moves until its frame is accepted. -/
def untilAccepted : List Move :=
  x.before ++ .enter x.now x.fresh x.request :: x.waited

/-- The state in which its frame is accepted. -/
def state : Dispatcher := (ofConfig config).run x.untilAccepted

/-- The request in the run until then. -/
def prior : Exchange config x.untilAccepted :=
  { x.toExchange with after := x.waited, moves_eq := rfl }

/-- The subscription that it was registered with. -/
def entry : Correlator.Entry := ⟨x.reply.number, x.key⟩

theorem service_eq :
    (ofConfig config).service ops
      = x.untilAccepted ++ .answer x.callId (.ok ()) :: x.later := by
  rw [untilAccepted, List.append_assoc, List.cons_append, ← x.after_eq]
  exact x.moves_eq

/-- It has no answer yet, and knows what its subscription came to. -/
theorem stands :
    Stands x.state x.callId (x.request.prepared x.fresh) x.entry none
      x.prior.ending? := by
  have h := x.prior.stands x.kept
  have hanswer : x.prior.answer? = none := x.unanswered
  rw [hanswer] at h
  exact h

/-- Its frame is in line. -/
theorem sending :
    x.state.call? x.callId
      = some ⟨x.callId, .sending (x.request.prepared x.fresh) x.key
          x.reply.number⟩
    ∧ x.state.correlator.outcome? x.reply.number = x.prior.ending? := by
  cases x.stands with
  | sending hc ho => exact ⟨hc, ho⟩
  | ended _ _ _ hv => cases hv

theorem sound_state : Sound x.state := (sound_ofConfig config).run _

theorem serve_eq (first : List Operation) :
    (ofConfig config).serve first = (ofConfig config).run ((ofConfig config).service first) :=
  ((sound_ofConfig config).serve_eq_run first (settled_ofConfig config)).1

/-- Of all operations only its own starts it, so every operation is timely for a
request that started when senders give up in time. -/
theorem timely (hin : config.SendsInTime x.now) {first rest : List Operation} {op : Operation}
    (hops : ops = first ++ op :: rest) :
    op.Timely config x.callId ((ofConfig config).serve first) := by
  rintro now fresh r rfl hnumber
  have hservice := service_append first (.request now fresh r :: rest) (ofConfig config)
  rw [← hops, service, moves, opening, List.cons_append, List.cons_append] at hservice
  rw [serve_eq] at hnumber
  rw [enter_unique (hservice.symm.trans x.moves_eq) hnumber]
  exact hin

/-- A request that started when senders give up in time is in time whenever it is
in line, after any of the operations. -/
theorem punctual (hin : config.SendsInTime x.now) (first : List Operation) :
    ∀ rest, ops = first ++ rest →
      Punctual config x.callId ((ofConfig config).serve first) := by
  induction first using List.reverseRecOn with
  | nil => exact fun _ _ => punctual_ofConfig config x.callId
  | append_singleton first op ih =>
      intro rest hops
      rw [List.append_assoc] at hops
      have hbefore := ih _ hops
      have hserved : (ofConfig config).serve (first ++ [op])
          = ((ofConfig config).serve first).operate op := List.foldl_concat ..
      have hs : Sound ((ofConfig config).serve first) := by
        rw [serve_eq]
        exact (sound_ofConfig config).run _
      rw [hserved]
      exact hbefore.operate hs (x.timely hin hops)

/-- The timer of a request that started when senders give up in time did not fire
before its frame was accepted. -/
theorem in_time (hin : config.SendsInTime x.now) (key : String) (span : Span) :
    x.state.correlator.outcome? x.reply.number
      ≠ some (.error (.timeout key span)) := by
  obtain ⟨first, op, rest, pre, post, hops, huntil, hmoves⟩ := exists_operation x.service_eq
  have hs : Sound ((ofConfig config).serve first) := by
    rw [serve_eq]
    exact (sound_ofConfig config).run _
  have hrun : x.state = ((ofConfig config).serve first).run pre := by
    rw [state, huntil, run_append, serve_eq]
  obtain ⟨rest, hopening⟩ := accepted_in_opening hmoves
  obtain ⟨w, hsender, hw⟩ :=
    (x.punctual hin first _ hops).accepted hs (x.timely hin hops) hopening
  rw [← hrun] at hw
  have hc := x.sending.1
  rw [← hsender] at hc
  exact hw.unexpired _ _ _ hc key span

end Acceptance

/-- Callers that wait less long than senders. -/
def hasty : Config :=
  { timeout := .ms 100, sendTimeout := .ms 5000, outboundCapacity := 1 }

/-- A request whose frame has to wait for room. It times out in line, and
then its frame is accepted. -/
def crowded : List Operation :=
  [.trySend (.text ""), .request 0 "a" retrieval, .settle 200000000,
    .receive 200000000 1]

/-- This request. -/
def overdue : Acceptance hasty crowded where
  before := ((ofConfig hasty).service crowded).take 1
  now := 0
  fresh := "a"
  request := retrieval
  key := "a"
  reply := ⟨1, "a", Span.deadline 0 (.ms 100), none⟩
  after := ((ofConfig hasty).service crowded).drop 2
  moves_eq := rfl
  keyed := by decide
  registered := rfl
  waited := (((ofConfig hasty).service crowded).drop 2).take 7
  later := ((ofConfig hasty).service crowded).drop 10
  after_eq := rfl
  unanswered := rfl
  kept hdrop := by
    obtain ⟨now, hcancel⟩ := cancel_of_mem_service crowded
      (List.mem_of_mem_drop (List.mem_of_mem_take hdrop))
    simp [crowded] at hcancel

end DeviceTwin.Dispatcher
