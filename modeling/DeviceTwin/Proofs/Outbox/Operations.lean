/-
The operations of the client on its outbox as runs of turns.

Between its operations the client waits until everybody who can go on has gone on:
whoever is in line then, there is no room (`Settled`). From there a frame that is
sent or offered is one attempt, a frame that is received lets the senders move up
one after the other, and when the send timeout is over for some of them or the
receiver goes away, they have their turns and are told. So an operation does what
some turns do, reports what they report, and leaves the outbox settled (`isRun`,
`settled_outcome`), and what is known of runs of turns is known of the client
(`frames_are_sent_as_answered`).
-/
import DeviceTwin.Proofs.Outbox.Turns

namespace DeviceTwin.Outbox

variable {s : Clocked}

-- ================================================================== operations

/-- What the client does to its outbox. -/
inductive Operation where
  | send (f : Frame)
  | trySend (f : Frame)
  | receive (n : Nat)
  | expire
  | cancel (sender : Nat)
  | disconnect

/-- How waiting ended for a sender. -/
def Verdict.report (v : Verdict) : Report := .answered v.1 v.2

/-- What the operation does, and what comes of it. -/
def Operation.outcome (s : Clocked) : Operation → Clocked × List Report
  | .send f =>
      let (box, answer?) := s.box.send s.now s.attempts f
      (s.tried box, answer?.toList.map (.answered s.attempts))
  | .trySend f =>
      let (box, accepted) := s.box.trySend f
      (s.tried box, [.tried s.attempts accepted])
  | .receive n =>
      let (box, frames, verdicts) := s.box.receive n
      ({ s with box }, frames.map .received ++ verdicts.map Verdict.report)
  | .expire =>
      let (box, verdicts) := s.box.expire s.now
      ({ s with box }, verdicts.map Verdict.report)
  | .cancel sender =>
      ({ s with box := s.box.cancel sender },
        if s.box.line.any (·.sender == sender) then [.cancelled sender] else [])
  | .disconnect =>
      let (box, verdicts) := s.box.disconnect
      ({ s with box }, verdicts.map Verdict.report)

/-- The turns that it is made of: whoever has a verdict has its turn. -/
def Operation.turns (s : Clocked) : Operation → List Turn
  | .send f => [.emit f]
  | .trySend f => [.tryEmit f]
  | .receive n => List.replicate n .receive ++ (s.box.receive n).2.2.map fun v => .wake v.1
  | .expire => (s.box.expire s.now).2.map fun v => .wake v.1
  | .cancel sender => [.cancel sender]
  | .disconnect => .disconnect :: s.box.disconnect.2.map fun v => .wake v.1

/-- Whoever is in line waits for room, and the receiver is there. -/
def Settled (o : Outbox) : Prop := o.line ≠ [] → o.connected = true ∧ o.room = 0

/-- Turns that lead to a state, and what comes of them. -/
structure Leads (s : Clocked) (turns : List Turn) (s' : Clocked) (reports : List Report) :
    Prop where
  state : s.run turns = s'
  history : s.history turns = reports

/-- Without a turn nothing happens. -/
theorem Leads.nil (s : Clocked) : Leads s [] s [] := ⟨rfl, rfl⟩

/-- One more turn in front reports before the others. -/
theorem Leads.cons {t : Turn} {turns : List Turn} {s₁ s' : Clocked} {r? : Option Report}
    {reports : List Report} (ht : s.turn t = (s₁, r?)) (h : Leads s₁ turns s' reports) :
    Leads s (t :: turns) s' (r?.toList ++ reports) := by
  refine ⟨?_, ?_⟩
  · show (s.turn t).1.run turns = s'
    rw [ht]
    exact h.state
  · rw [Clocked.history, ht, h.history]

/-- Turns lead on from where others have led. -/
theorem Leads.append {turns later : List Turn} {s₁ s' : Clocked} {reports more : List Report}
    (h : Leads s turns s₁ reports) (hlater : Leads s₁ later s' more) :
    Leads s (turns ++ later) s' (reports ++ more) := by
  refine ⟨?_, ?_⟩
  · rw [Clocked.run_append, h.state, hlater.state]
  · rw [Clocked.history_append, h.state, h.history, hlater.history]

-- ==================================================================== attempts

/-- In a settled outbox a frame is accepted if nobody is in line and there is
room. -/
theorem Settled.fits_iff {o : Outbox} (h : o.Settled) :
    o.line.length < o.room ↔ (o.line.isEmpty && decide (0 < o.room)) = true := by
  rw [Bool.and_eq_true, List.isEmpty_iff, decide_eq_true_eq]
  by_cases hline : o.line = []
  · simp [hline]
  · simp [hline, (h hline).2]

/-- In a settled outbox a sender's turn is what sending does at once. -/
theorem turn_emit (h : s.box.Settled) (f : Frame) :
    s.turn (.emit f) = (s.tried (s.box.send s.now s.attempts f).1,
      (s.box.send s.now s.attempts f).2.map (.answered s.attempts)) := by
  simp only [Clocked.turn, send, h.fits_iff]
  split
  · rfl
  · split <;> rfl

/-- So is the turn of one that does not wait. -/
theorem turn_tryEmit (h : s.box.Settled) (f : Frame) :
    s.turn (.tryEmit f)
      = (s.tried (s.box.trySend f).1, some (.tried s.attempts (s.box.trySend f).2)) := by
  have hfits : (s.box.connected && decide (s.box.line.length < s.box.room))
      = (s.box.connected && s.box.line.isEmpty && decide (0 < s.box.room)) := by
    rw [Bool.and_assoc, Bool.eq_iff_iff, Bool.and_eq_true, Bool.and_eq_true, decide_eq_true_eq,
      h.fits_iff]
  simp only [Clocked.turn, trySend, hfits]
  split <;> rfl

-- ==================================================================== receiving

/-- The receiver takes frames from the front, one in each turn, and nothing when there
are none. -/
theorem leads_receive (n : Nat) : ∀ s : Clocked,
    Leads s (List.replicate n .receive)
      { s with box := { s.box with queue := s.box.queue.drop n } }
      ((s.box.queue.take n).map .received) := by
  induction n with
  | zero => exact Leads.nil
  | succ n ih =>
      intro s
      cases hqueue : s.box.queue with
      | nil =>
          have hturn : s.turn .receive = (s, none) := by simp only [Clocked.turn, hqueue]
          have hrest := Leads.cons hturn (ih s)
          rw [hqueue, List.drop_nil, List.take_nil] at hrest
          exact hrest
      | cons f queue =>
          have hturn : s.turn .receive
              = ({ s with box := { s.box with queue } }, some (.received f)) := by
            simp only [Clocked.turn, hqueue]
          exact Leads.cons hturn (ih _)

variable {w : Waiting}

/-- What happens when a sender in line has its turn. -/
theorem turn_wake (hn : (s.box.line.map (·.sender)).Nodup) (hw : w ∈ s.box.line) :
    s.turn (.wake w.sender) =
      if s.box.connected = false then
        ({ s with box := s.box.cancel w.sender }, some (.answered w.sender (.error .disconnected)))
      else if s.box.hasPlace w.sender then
        ({ s with box := (s.box.cancel w.sender).push w.frame },
          some (.answered w.sender (.ok ())))
      else if w.isDue s.now then
        ({ s with box := s.box.cancel w.sender }, some (.answered w.sender (.error .timeout)))
      else (s, none) := by
  have hfind := (Lookup.find?_eq_some_iff hn).mpr ⟨hw, rfl⟩
  simp only [Clocked.turn, hfind, Bool.not_eq_true']

/-- Senders that have places take them when they have their turns. -/
theorem leads_admitted (admitted : List Waiting) : ∀ {s : Clocked} {rest : List Waiting},
    s.box.line = admitted ++ rest → (s.box.line.map (·.sender)).Nodup →
      (s.box.line ≠ [] → s.box.connected = true) → admitted.length ≤ s.box.room →
      Leads s (admitted.map fun w => .wake w.sender)
        { s with box := { s.box with
            queue := s.box.queue ++ admitted.map (·.frame), line := rest } }
        (admitted.map fun w => .answered w.sender (.ok ())) := by
  induction admitted with
  | nil =>
      intro s rest hline _ _ _
      rw [List.nil_append] at hline
      subst hline
      rw [List.map_nil, List.map_nil, List.append_nil]
      exact Leads.nil s
  | cons w admitted ih =>
      intro s rest hline hn hconnected hroom
      rw [List.length_cons] at hroom
      have hw : w ∈ s.box.line := hline ▸ List.mem_append_left _ List.mem_cons_self
      have hplace : s.box.hasPlace w.sender = true := by
        obtain ⟨k, hk⟩ := Nat.exists_eq_succ_of_ne_zero (Nat.ne_of_gt (Nat.zero_lt_of_lt hroom))
        simp [hasPlace, hline, hk]
      have hrest : (s.box.cancel w.sender).line = admitted ++ rest := by
        rw [hline, List.cons_append, List.map_cons, List.nodup_cons] at hn
        have hkept : ∀ v ∈ admitted ++ rest, v.sender ≠ w.sender :=
          fun v hv heq => hn.1 (heq ▸ List.mem_map_of_mem hv)
        simp only [cancel, hline, List.cons_append, bne_self_eq_false, Bool.false_eq_true,
          not_false_eq_true, List.filter_cons_of_neg]
        exact Lookup.filter_ne_eq_self hkept
      have hlinked : s.box.connected = true := hconnected (List.ne_nil_of_mem hw)
      have hopen : ¬ s.box.connected = false := Bool.not_eq_false _ ▸ hlinked
      have hturn := turn_wake hn hw
      rw [if_neg hopen, if_pos hplace] at hturn
      have hlater := ih (s := { s with box := (s.box.cancel w.sender).push w.frame }) hrest
        (hn.sublist (List.filter_sublist.map _)) (fun _ => hlinked) (by
          rw [room_push]
          exact Nat.le_sub_one_of_lt hroom)
      have hqueue : (s.box.queue ++ [w.frame]) ++ admitted.map (·.frame)
          = s.box.queue ++ (w :: admitted).map (·.frame) := by simp
      rw [← hqueue]
      exact Leads.cons hturn hlater

/-- Some senders go with an error when they have their turns, whoever else is in
line. -/
def Denied (s : Clocked) (e : TransportError) (denied : List Waiting) : Prop :=
  ∀ line : List Waiting, (line.map (·.sender)).Nodup → ∀ w ∈ denied, w ∈ line →
    Clocked.turn { s with box := { s.box with line } } (.wake w.sender)
      = ({ s with box := { s.box with line := line.filter (·.sender != w.sender) } },
        some (.answered w.sender (.error e)))

/-- They go one after the other, and the others stay. -/
theorem leads_denied {e : TransportError} (denied : List Waiting) (hturn : Denied s e denied) :
    ∀ {line : List Waiting}, denied ⊆ line → (line.map (·.sender)).Nodup →
      (denied.map (·.sender)).Nodup →
      Leads { s with box := { s.box with line } } (denied.map fun w => .wake w.sender)
        { s with box := { s.box with
            line := line.filter fun w => w.sender ∉ denied.map (·.sender) } }
        (denied.map fun w => .answered w.sender (.error e)) := by
  induction denied with
  | nil =>
      intro line _ _ _
      have hall : (line.filter fun w => w.sender ∉ ([] : List Waiting).map (·.sender)) = line := by
        simp
      rw [hall]
      exact Leads.nil _
  | cons w denied ih =>
      intro line hsub hline hdenied
      obtain ⟨hw, hsub⟩ := List.cons_subset.mp hsub
      rw [List.map_cons, List.nodup_cons] at hdenied
      have hleft : denied ⊆ line.filter (·.sender != w.sender) := by
        intro v hv
        refine List.mem_filter.mpr ⟨hsub hv, ?_⟩
        rw [bne_iff_ne]
        intro heq
        exact hdenied.1 (heq ▸ List.mem_map_of_mem hv)
      have hrest := ih (fun line hline v hv => hturn line hline v (List.mem_cons_of_mem _ hv)) hleft
        (hline.sublist (List.filter_sublist.map _)) hdenied.2
      have hfilter : (line.filter (·.sender != w.sender)).filter
            (fun v => v.sender ∉ denied.map (·.sender))
          = line.filter fun v => v.sender ∉ (w :: denied).map (·.sender) := by
        rw [List.filter_filter]
        refine List.filter_congr fun v _ => ?_
        by_cases heq : v.sender = w.sender <;> simp [heq]
      rw [hfilter] at hrest
      exact Leads.cons (hturn line hline w List.mem_cons_self hw) hrest

-- ================================================================ all of them

/-- An operation does what its turns do, and they report what it reports. -/
def Operation.IsRun (op : Operation) (s : Clocked) : Prop :=
  Leads s (op.turns s) (op.outcome s).1 (op.outcome s).2

/-- Sending is one turn. -/
theorem isRun_send (h : s.box.Settled) (f : Frame) : (Operation.send f).IsRun s := by
  have hturn := Leads.cons (turn_emit h f) (Leads.nil _)
  rw [List.append_nil, Option.toList_map] at hturn
  exact hturn

/-- Trying to send is one turn. -/
theorem isRun_trySend (h : s.box.Settled) (f : Frame) : (Operation.trySend f).IsRun s :=
  Leads.cons (turn_tryEmit h f) (Leads.nil _)

/-- Going out of the line is one turn, and nothing for somebody who is not in it. -/
theorem isRun_cancel (s : Clocked) (sender : Nat) : (Operation.cancel sender).IsRun s := by
  by_cases hany : s.box.line.any (·.sender == sender) = true
  · have hturn : s.turn (.cancel sender)
        = ({ s with box := s.box.cancel sender }, some (.cancelled sender)) := if_pos hany
    have hleads := Leads.cons hturn (Leads.nil _)
    simp only [Operation.IsRun, Operation.outcome, hany, if_true]
    exact hleads
  · have hturn : s.turn (.cancel sender) = (s, none) := if_neg hany
    have hnobody : s.box.cancel sender = s.box := by
      have hnone : ∀ w ∈ s.box.line, w.sender ≠ sender := by simpa using hany
      rw [cancel, Lookup.filter_ne_eq_self hnone]
    have hleads := Leads.cons hturn (Leads.nil _)
    simp only [Operation.IsRun, Operation.outcome, hany, hnobody]
    exact hleads

/-- Receiving is the turns of the receiver and then those of the senders who move up. -/
theorem isRun_receive (h : s.box.Settled) (hn : (s.box.line.map (·.sender)).Nodup) (n : Nat) :
    (Operation.receive n).IsRun s := by
  have htaken := leads_receive n s
  have hmoved := leads_admitted
    (s.box.line.take (s.box.capacity - (s.box.queue.drop n).length))
    (s := { s with box := { s.box with queue := s.box.queue.drop n } })
    (List.take_append_drop _ _).symm hn (fun hline => (h hline).1) (List.length_take_le _ _)
  have hleads := htaken.append hmoved
  simp only [Operation.IsRun, Operation.turns, Operation.outcome, receive, moveUp, List.map_map]
  exact hleads

/-- In a settled outbox those whose time is over have no place. -/
theorem denied_due (h : s.box.Settled) :
    Denied s .timeout (s.box.line.filter (·.isDue s.now)) := by
  intro line hline w hw hthere
  obtain ⟨hw, hdue⟩ := List.mem_filter.mp hw
  obtain ⟨hconnected, hroom⟩ := h (List.ne_nil_of_mem hw)
  have hopen : ¬ s.box.connected = false := Bool.not_eq_false _ ▸ hconnected
  have hplaceless : ({ s.box with line } : Outbox).hasPlace w.sender = false := by
    have hnone : ({ s.box with line } : Outbox).room = 0 := hroom
    rw [hasPlace, hnone]
    rfl
  rw [turn_wake (s := { s with box := { s.box with line } }) hline hthere, if_neg hopen,
    hplaceless, if_neg Bool.false_ne_true, if_pos hdue]
  rfl

/-- Those who stay are those whose time is not over. -/
theorem filter_not_due {line : List Waiting} (hn : (line.map (·.sender)).Nodup) (now : Nat) :
    (line.filter fun w => w.sender ∉ (line.filter (·.isDue now)).map (·.sender))
      = line.filter (!·.isDue now) := by
  refine List.filter_congr fun w hw => ?_
  have hdue : w.sender ∈ (line.filter (·.isDue now)).map (·.sender) ↔ w.isDue now = true := by
    constructor
    · intro hmem
      obtain ⟨v, hv, heq⟩ := List.mem_map.mp hmem
      obtain ⟨hv, hdue⟩ := List.mem_filter.mp hv
      rwa [← List.inj_on_of_nodup_map hn hv hw heq]
    · exact fun hdue => List.mem_map_of_mem (List.mem_filter.mpr ⟨hw, hdue⟩)
  by_cases hd : w.isDue now = true
  · rw [decide_not, hd, decide_eq_true (hdue.mpr hd)]
  · rw [decide_not, Bool.eq_false_iff.mpr hd, decide_eq_false (mt hdue.mp hd)]

/-- Expiring is the turns of those whose time is over. -/
theorem isRun_expire (h : s.box.Settled) (hn : (s.box.line.map (·.sender)).Nodup) :
    Operation.expire.IsRun s := by
  have hleads := leads_denied _ (denied_due h) (List.filter_subset_self _) hn
    (hn.sublist (List.filter_sublist.map _))
  rw [filter_not_due hn] at hleads
  simp only [Operation.IsRun, Operation.turns, Operation.outcome, expire, List.map_map]
  exact hleads

/-- The state after the receiver went away. -/
def abandoned (s : Clocked) : Clocked :=
  { s with box := { s.box with queue := [], connected := false } }

/-- Without a receiver whoever has a turn goes. -/
theorem denied_abandoned (s : Clocked) (denied : List Waiting) :
    Denied (abandoned s) .disconnected denied := fun line hline _ _ hthere =>
  turn_wake (s := { abandoned s with box := { (abandoned s).box with line } }) hline hthere

/-- A disconnection is the end of the receiver and a turn of everybody in line. -/
theorem isRun_disconnect (hn : (s.box.line.map (·.sender)).Nodup) :
    Operation.disconnect.IsRun s := by
  have hnobody : (s.box.line.filter fun w => w.sender ∉ s.box.line.map (·.sender)) = [] := by
    rw [List.filter_eq_nil_iff]
    intro w hw
    simpa using ⟨w, hw, rfl⟩
  have hleads := leads_denied s.box.line (denied_abandoned s s.box.line) (List.Subset.refl _) hn hn
  rw [hnobody] at hleads
  simp only [Operation.IsRun, Operation.turns, Operation.outcome, disconnect, List.map_map]
  exact Leads.cons rfl hleads

/-- Every operation of a settled outbox is a run of turns. -/
theorem isRun (h : s.box.Settled) (hn : (s.box.line.map (·.sender)).Nodup) (op : Operation) :
    op.IsRun s := by
  cases op with
  | send f => exact isRun_send h f
  | trySend f => exact isRun_trySend h f
  | receive n => exact isRun_receive h hn n
  | expire => exact isRun_expire h hn
  | cancel sender => exact isRun_cancel s sender
  | disconnect => exact isRun_disconnect hn

/-- With nobody in line an outbox is settled. -/
theorem settled_of_line {o : Outbox} (h : o.line = []) : o.Settled := fun hline => absurd h hline

/-- So it is once senders have moved up while the receiver is there. -/
theorem settled_moveUp {o : Outbox} (h : o.line ≠ [] → o.connected = true) :
    o.moveUp.1.Settled := by
  intro hline
  have hmore : o.room < o.line.length := by
    rw [← Nat.not_le, ← List.drop_eq_nil_iff]
    exact hline
  refine ⟨h (List.ne_nil_of_length_pos (Nat.zero_lt_of_lt hmore)), ?_⟩
  show o.capacity - (o.queue ++ (o.line.take o.room).map (·.frame)).length = 0
  rw [List.length_append, List.length_map, List.length_take_of_le (Nat.le_of_lt hmore), room]
  omega

/-- An operation leaves a settled outbox settled. -/
theorem settled_outcome (h : s.box.Settled) (op : Operation) : (op.outcome s).1.box.Settled := by
  cases op with
  | send f =>
      show (s.box.send s.now s.attempts f).1.Settled
      unfold send
      split
      · exact h
      case isFalse hconnected =>
        split
        case isTrue hfits =>
          rw [Bool.and_eq_true, List.isEmpty_iff] at hfits
          exact settled_of_line hfits.1
        case isFalse hfull =>
          rw [Bool.not_eq_true, Bool.not_eq_false'] at hconnected
          rw [← h.fits_iff] at hfull
          intro _
          refine ⟨hconnected, ?_⟩
          show s.box.room = 0
          by_cases hline : s.box.line = []
          · rw [hline, List.length_nil] at hfull
            omega
          · exact (h hline).2
  | trySend f =>
      show (s.box.trySend f).1.Settled
      unfold trySend
      split
      case isTrue hfits =>
        rw [Bool.and_eq_true, Bool.and_eq_true, List.isEmpty_iff] at hfits
        exact settled_of_line hfits.1.2
      case isFalse => exact h
  | receive n =>
      exact settled_moveUp fun hline => (h hline).1
  | expire =>
      intro hline
      refine h fun hnone => hline ?_
      show s.box.line.filter _ = []
      rw [hnone]
      rfl
  | cancel sender =>
      intro hline
      refine h fun hnone => hline ?_
      show s.box.line.filter _ = []
      rw [hnone]
      rfl
  | disconnect => exact settled_of_line rfl

-- ============================================================= what is sent

/-- Of every run, whatever the turns of the senders, the receiver and the clock:

- the frames that were received are the first of those that were accepted, in the
  order in which they were accepted, and while the receiver is there the others are
  in the queue;
- every attempt was accepted, or it failed, was refused or given up, or it is in
  line, and only one of these, so that what is reported as accepted was accepted once
  and what is reported otherwise never is;
- the queue holds no more than its capacity;
- a send times out in a turn of its own, no earlier than its send timeout (and never
  where no clock can show the end of that), and in no state since it began did it
  have a place;
- and the operations of the client on a settled outbox are such runs, after which it
  is settled. -/
theorem frames_are_sent_as_answered (capacity : Nat) (sendTimeout : Span) (turns : List Turn) :
    let fresh := Clocked.start capacity sendTimeout
    let s := fresh.run turns
    let H := fresh.history turns
    let F := attempted turns
    (∃ later, (accepted H).map (F[·]?) = (received H ++ later).map some
      ∧ (s.box.connected = true → later = s.box.queue))
    ∧ (accepted H ++ refused H ++ s.box.line.map (·.sender)).Perm (List.range F.length)
    ∧ (accepted H).Nodup
    ∧ (∀ n ∈ refused H, n ∉ accepted H)
    ∧ s.box.queue.length ≤ capacity
    ∧ (∀ before t after n, turns = before ++ t :: after →
        ((fresh.run before).turn t).2 = some (.answered n (.error .timeout)) →
        t = .wake n ∧ ∃ first f mid, before = first ++ .emit f :: mid
          ∧ n = (attempted first).length
          ∧ (fresh.run first).now + sendTimeout.nanos ≤ Clock.last
          ∧ (fresh.run first).now + sendTimeout.nanos ≤ (fresh.run before).now
          ∧ ∀ part rest, mid = part ++ rest → (fresh.run (first ++ .emit f :: part)).box.Waits n)
    ∧ (s.box.Settled → ∀ op : Operation, op.IsRun s ∧ (op.outcome s).1.box.Settled) := by
  have h := account capacity sendTimeout turns
  have hends := h.ends
  rw [h.attempts] at hends
  have hdistinct := (List.nodup_append.mp (hends.nodup_iff.mpr List.nodup_range)).1
  obtain ⟨haccepted, -, hapart⟩ := List.nodup_append.mp hdistinct
  refine ⟨?_, hends, haccepted, fun n hn hmem => hapart n hmem n hn rfl, ?_, ?_, ?_⟩
  · obtain ⟨lost, hsent, hlost⟩ := h.sent
    refine ⟨_, (List.append_assoc _ _ _ ▸ hsent), fun hconnected => ?_⟩
    rw [hlost hconnected, List.append_nil]
  · have hbounded := h.bounded
    rwa [(Clocked.terms_run turns (.start capacity sendTimeout)).1] at hbounded
  · rintro before t after n - hturn
    exact timeouts_come_late hturn
  · exact fun hsettled op => ⟨isRun hsettled h.nodup op, settled_outcome hsettled op⟩

/-- Two senders wait for the only place until their time is over. When it becomes
free it is the place of the first, who takes it in a turn that comes later than that
of the second. -/
example :
    let H := (Clocked.start 1 (.ms 5)).history [.tryEmit (.text "a"), .emit (.text "b"),
      .emit (.text "c"), .lapse 5000000, .receive, .wake 2, .wake 1, .receive]
    accepted H = [0, 1] ∧ refused H = [2] ∧ received H = [.text "a", .text "b"] := by decide

end DeviceTwin.Outbox
