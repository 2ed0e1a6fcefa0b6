/-
Runs of a client.

An `Operation` is one thing that is asked of a client or happens to it, and
a run is a list of them. To the calls an operation is at most one of their
own at the time of the client, or what has ended is taken away (`Touched`);
this is all that is said of operations where calls are concerned. So calls
and table agree after every run, and nothing is due (`Consistent`).

What a run brings to light is listed by `history`. `history_conserved` is
the law by which such lists are compared: what comes out of a place, with
what is left there, is what was there before and what went in.
-/
import DeviceTwin.Client.Basic
import DeviceTwin.Proofs.Dispatcher.Emission
import DeviceTwin.Proofs.Dispatcher.Rest

namespace DeviceTwin

/-- To take away what has ended leaves the calls as they are. -/
theorem Dispatcher.Sound.collect {d : Dispatcher} (hs : d.Sound) :
    ({ d with finished := [] } : Dispatcher).Sound :=
  { hs with
    once := List.nodup_nil
    apart := by simp
    past := by simp }

namespace Client

variable {η : Type} {c : Client η}

-- ================================================================ operations

/-- What can be asked of a client, and what can happen to it. -/
inductive Operation (η : Type) where
  | advance (nanos : Nat)
  | request (fresh : String) (r : Request)
  | emitFrame (f : Frame)
  | cancel (id : Nat)
  | takeIn (f : Frame)
  | receive (n : Nat)
  | disconnect
  | trySend (f : Frame)
  /-- Ends every request and leaves the pump alone. -/
  | endCalls
  | register (entity : Option EntityId) (handler : η)
  | deregister (id : Nat)
  | offer (f : Frame)
  | closeInbox
  | pump
  | collect
  | stopListening
  | stopPump
  | shutdown

def operate (c : Client η) : Operation η → Client η
  | .advance nanos => c.advance nanos
  | .request fresh r => c.act fun d now => d.request now fresh r
  | .emitFrame f => c.act fun d now => d.emitFrame now f
  | .cancel id => c.act fun d now => d.cancel now id
  | .takeIn f => (c.takeIn f).1
  | .receive n => (c.receive n).1
  | .disconnect => c.act .disconnect
  | .trySend f => (c.trySend f).1
  | .endCalls => c.act .shutdown
  | .register entity handler => (c.register entity handler).1
  | .deregister id => (c.deregister id).1
  | .offer f => (c.offer f).1
  | .closeInbox => c.closeInbox
  | .pump => (c.pump.map (·.1)).getD c
  | .collect => c.collect.1
  | .stopListening => c.stopListening
  | .stopPump => c.stopPump
  | .shutdown => c.shutdown

def serve (c : Client η) (ops : List (Operation η)) : Client η := ops.foldl operate c

theorem serve_append (c : Client η) (first second : List (Operation η)) :
    c.serve (first ++ second) = (c.serve first).serve second := List.foldl_append

/-- Operations that stop neither the pump nor the listening to what arrives. -/
def Operation.keepsPump : Operation η → Bool
  | stopListening | stopPump | shutdown => false
  | advance _ | request .. | emitFrame _ | cancel _ | takeIn _ | receive _ | disconnect
  | trySend _ | endCalls | register .. | deregister _ | offer _ | closeInbox | pump | collect =>
      true

-- ================================================================= the calls

/-- What becomes of the calls of a client at a time: nothing, what has ended is
taken away, a frame is offered to the transport without waiting, or an operation
of theirs at the time that it is then. -/
inductive Touched (d : Dispatcher) (now : Nat) (c : Client η) : Prop where
  | not (clock : c.now = now) (calls : c.dispatcher = d)
  | collected (clock : c.now = now) (calls : c.dispatcher = { d with finished := [] })
  | offered (clock : c.now = now) (f : Frame) (calls : c.dispatcher = d.operate (.trySend f))
  | operated (op : Dispatcher.Operation) (clock : op.now? = some c.now)
      (calls : c.dispatcher = d.operate op)

theorem touched_route (c : Client η) (f : Frame) :
    Touched c.dispatcher c.now (c.route f).1 := by
  unfold route
  split
  case isTrue => exact .not rfl rfl
  case isFalse =>
    have htaken : (c.takeIn f).1.now = c.now
        ∧ (c.takeIn f).1.dispatcher = (c.dispatcher.inbound c.now f).1 := ⟨rfl, rfl⟩
    generalize c.takeIn f = outcome at htaken ⊢
    obtain ⟨taken, signal?⟩ := outcome
    obtain ⟨hnow, hcalls⟩ := htaken
    have htouched : Touched c.dispatcher c.now taken :=
      .operated (.inbound c.now f) (congrArg some hnow.symm) hcalls
    have hforward : ∀ s, Touched c.dispatcher c.now (taken.forward s) := by
      intro s
      unfold forward
      split
      · exact .operated (.inbound c.now f) (congrArg some hnow.symm) hcalls
      · exact htouched
    cases signal? with
    | error e => exact htouched
    | ok signal? =>
        cases signal? with
        | none => exact htouched
        | some s =>
            cases s with
            | event e => exact htouched
            | command | response | error | acknowledgement | acknowledgements =>
                exact hforward _

theorem touched_act (c : Client η) (operation : Dispatcher → Nat → Dispatcher)
    (op : Dispatcher.Operation) (hnow : op.now? = some c.now)
    (hop : operation c.dispatcher c.now = c.dispatcher.operate op) :
    Touched c.dispatcher c.now (c.act operation) :=
  .operated op hnow hop

/-- What every operation does to the calls. -/
theorem touched_operate (c : Client η) (op : Operation η) :
    Touched c.dispatcher c.now (c.operate op) := by
  cases op with
  | advance nanos => exact .operated (.settle (c.now + nanos)) rfl rfl
  | request fresh r =>
      exact c.touched_act (fun d now => d.request now fresh r) (.request c.now fresh r) rfl rfl
  | emitFrame f =>
      exact c.touched_act (fun d now => d.emitFrame now f) (.emitFrame c.now f) rfl rfl
  | cancel id =>
      exact c.touched_act (fun d now => d.cancel now id) (.cancel c.now id) rfl rfl
  | disconnect => exact c.touched_act Dispatcher.disconnect (.disconnect c.now) rfl rfl
  | endCalls => exact c.touched_act Dispatcher.shutdown (.shutdown c.now) rfl rfl
  | shutdown => exact c.stopPump.touched_act Dispatcher.shutdown (.shutdown c.now) rfl rfl
  | takeIn f => exact .operated (.inbound c.now f) rfl rfl
  | receive n => exact .operated (.receive c.now n) rfl rfl
  | trySend f => exact .offered rfl f rfl
  | collect => exact .collected rfl rfl
  | register | deregister | closeInbox | stopListening | stopPump => exact .not rfl rfl
  | offer f =>
      show Touched _ _ (c.offer f).1
      unfold offer
      split
      · exact .not rfl rfl
      · split <;> exact .not rfl rfl
  | pump =>
      show Touched _ _ ((c.pump.map (·.1)).getD c)
      unfold pump
      cases c.inbox with
      | nil => exact .not rfl rfl
      | cons f rest => exact touched_route { c with inbox := rest } f

/-- Calls and table agree, and nothing is due. -/
structure Consistent (c : Client η) : Prop where
  calls : c.dispatcher.Sound
  rest : c.dispatcher.AtRest c.now

theorem consistent_start (config : Config) : Consistent (start config : Client η) where
  calls := Dispatcher.sound_ofConfig config
  rest := Dispatcher.atRest_ofConfig config 0

/-- Whatever an operation does to the calls, they agree with the table. -/
theorem Touched.sound {d : Dispatcher} {now : Nat} (h : Touched d now c) (hs : d.Sound) :
    c.dispatcher.Sound := by
  cases h with
  | not _ calls => exact calls ▸ hs
  | collected _ calls => exact calls ▸ hs.collect
  | offered _ f calls => exact calls ▸ hs.operate (.trySend f)
  | operated op _ calls => exact calls ▸ hs.operate op

/-- Nor does it leave anything that is due. -/
theorem Touched.rest {d : Dispatcher} {now : Nat} (h : Touched d now c) (hs : d.Sound)
    (hr : d.AtRest now) : c.dispatcher.AtRest c.now := by
  cases h with
  | not clock calls =>
      rw [calls, clock]
      exact hr
  | collected clock calls =>
      rw [calls, clock]
      exact ⟨hr.timers, hr.line, hr.calls⟩
  | offered clock f calls =>
      rw [calls, clock]
      exact hs.atRest_operate hr nofun
  | operated op clock calls =>
      rw [calls, Dispatcher.operate_opening, clock]
      exact (hs.run _).atRest_settle c.now

theorem Consistent.operate (h : c.Consistent) (op : Operation η) :
    (c.operate op).Consistent where
  calls := (c.touched_operate op).sound h.calls
  rest := (c.touched_operate op).rest h.calls h.rest

theorem Consistent.serve (ops : List (Operation η)) :
    ∀ {c : Client η}, c.Consistent → (c.serve ops).Consistent := by
  induction ops with
  | nil => exact id
  | cons op ops ih => exact fun h => ih (h.operate op)

-- ================================================================= histories

/-- What the operations of a run bring to light, in order. -/
def history {α : Type} (shown : Client η → Operation η → List α) (c : Client η) :
    List (Operation η) → List α
  | [] => []
  | op :: ops => shown c op ++ (c.operate op).history shown ops

section Histories

variable {α : Type} {P : Client η → Prop} {allowed : Operation η → Prop}

/-- What comes out of a place in a run, with what is there in the end, is what was
there in the beginning and what went in, if it is so of every step. -/
theorem history_conserved {held : Client η → List α}
    {out into : Client η → Operation η → List α}
    (hkept : ∀ c op, P c → allowed op → P (c.operate op))
    (hstep : ∀ c op, P c → allowed op → out c op ++ held (c.operate op) = held c ++ into c op)
    (ops : List (Operation η)) :
    ∀ c, P c → (∀ op ∈ ops, allowed op) →
      c.history out ops ++ held (c.serve ops) = held c ++ c.history into ops := by
  induction ops with
  | nil =>
      intro c _ _
      exact (List.append_nil _).symm
  | cons op ops ih =>
      intro c hc hops
      obtain ⟨hop, hops⟩ := List.forall_mem_cons.mp hops
      calc (out c op ++ (c.operate op).history out ops) ++ held ((c.operate op).serve ops)
          = out c op ++ (held (c.operate op) ++ (c.operate op).history into ops) := by
            rw [List.append_assoc, ih _ (hkept c op hc hop) hops]
        _ = held c ++ (into c op ++ (c.operate op).history into ops) := by
            rw [← List.append_assoc, hstep c op hc hop, List.append_assoc]

/-- Histories are the same if every step shows the same. -/
theorem history_congr {shown shown' : Client η → Operation η → List α}
    (hkept : ∀ c op, P c → allowed op → P (c.operate op))
    (hstep : ∀ c op, P c → allowed op → shown c op = shown' c op)
    (ops : List (Operation η)) (hc : P c) (hops : ∀ op ∈ ops, allowed op) :
    c.history shown ops = c.history shown' ops := by
  have hsame : ∀ c op, P c → allowed op → shown c op ++ [] = [] ++ shown' c op :=
    fun c op hc hop => (List.append_nil _).trans (hstep c op hc hop)
  have hall := @history_conserved η α P allowed (fun _ => []) shown shown' hkept hsame ops c hc hops
  rwa [List.append_nil, List.nil_append] at hall

/-- What is read off a history piece by piece is the history of what is read off. -/
theorem history_read {β : Type} {shown : Client η → Operation η → List α}
    {g : List α → List β} (hnil : g [] = []) (happend : ∀ l l', g (l ++ l') = g l ++ g l')
    (ops : List (Operation η)) :
    ∀ c : Client η, g (c.history shown ops) = c.history (fun c op => g (shown c op)) ops := by
  induction ops with
  | nil => exact fun _ => hnil
  | cons op ops ih =>
      intro c
      rw [history, happend, ih]
      rfl

end Histories

end Client

end DeviceTwin
