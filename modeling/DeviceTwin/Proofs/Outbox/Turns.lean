/-
What becomes of frames that are to be sent, turn by turn.

A run is any list of turns, and its history is what came of them. The account
that is kept of it (`Account`) says that every attempt has one end at most: it is
accepted, or it is refused, or it is in line. What was accepted is, in this order,
what was received, what is in the queue, and after that what was lost with the
receiver.

A sender that waits without a place (`Waits`) waited without one all the time
before. Nobody who has a place loses it to somebody else (`hasPlace_iff`, with the
places counted against those who are ahead): whoever comes is behind, and whoever
goes makes room. So a sender whose time is over when it has its turn never had a
place (`timeouts_come_late`).
-/
import DeviceTwin.Client.Senders
import DeviceTwin.Proofs.Lookup
import Mathlib.Data.List.Count
import Mathlib.Data.List.Perm.Basic

namespace DeviceTwin.Outbox

-- ================================================================= histories

/-- The frame that is to be sent in a turn, if it is an attempt. -/
def Turn.frame? : Turn → Option Frame
  | .emit f | .tryEmit f => some f
  | _ => none

/-- The frames that were to be sent. The place of each is the number of its
attempt. -/
def attempted (turns : List Turn) : List Frame := turns.filterMap Turn.frame?

namespace Report

/-- The attempt that is accepted. -/
def accepted? : Report → Option Nat
  | .answered n (.ok _) | .tried n true => some n
  | _ => none

/-- The attempt that failed, was refused or was given up. -/
def refused? : Report → Option Nat
  | .answered n (.error _) | .tried n false | .cancelled n => some n
  | _ => none

/-- The frame that was received, if it is such a report. -/
def received? : Report → Option Frame
  | .received f => some f
  | _ => none

end Report

/-- The attempts that were accepted, in this order. -/
def accepted (H : List Report) : List Nat := H.filterMap Report.accepted?

/-- The attempts that a history says were not accepted, in order. -/
def refused (H : List Report) : List Nat := H.filterMap Report.refused?

/-- The frames that were received, in this order. -/
def received (H : List Report) : List Frame := H.filterMap Report.received?

namespace Clocked

/-- The state after turns, one after the other. -/
def run (s : Clocked) (turns : List Turn) : Clocked := turns.foldl (fun s t => (s.turn t).1) s

/-- What comes of the turns of a run, in order. -/
def history (s : Clocked) : List Turn → List Report
  | [] => []
  | t :: turns => (s.turn t).2.toList ++ (s.turn t).1.history turns

theorem run_append (s : Clocked) (turns later : List Turn) :
    s.run (turns ++ later) = (s.run turns).run later := List.foldl_append

/-- What a run reports is what its parts report, the second one from where the first has
led. -/
theorem history_append (turns later : List Turn) :
    ∀ s : Clocked, s.history (turns ++ later) = s.history turns ++ (s.run turns).history later := by
  induction turns with
  | nil => exact fun _ => rfl
  | cons t turns ih =>
      intro s
      rw [List.cons_append, history, ih, ← List.append_assoc]
      rfl

end Clocked

-- ===================================================================== a turn

@[simp] theorem Clocked.tried_box (s : Clocked) (box : Outbox) : (s.tried box).box = box := rfl

@[simp] theorem line_push (o : Outbox) (f : Frame) : (o.push f).line = o.line := rfl

/-- A frame in the queue takes one place. -/
theorem room_push (o : Outbox) (f : Frame) : (o.push f).room = o.room - 1 := by
  rw [room, push, List.length_append, List.length_singleton, room, Nat.sub_add_eq]

/-- A frame that finds room does not exceed the capacity. -/
theorem length_push_le {o : Outbox} (h : 0 < o.room) (f : Frame) :
    (o.push f).queue.length ≤ o.capacity := by
  rw [room] at h
  rw [push, List.length_append, List.length_singleton]
  omega

/-- Who has a place has it among free ones. -/
theorem room_pos_of_hasPlace {o : Outbox} {n : Nat} (h : o.hasPlace n = true) : 0 < o.room := by
  rw [Nat.pos_iff_ne_zero]
  intro hzero
  rw [hasPlace, hzero] at h
  cases h

@[simp] theorem line_join (o : Outbox) (w : Waiting) : (o.join w).line = o.line ++ [w] := rfl

/-- What a turn can do, and what comes of it. -/
inductive Effect (s : Clocked) : Turn → Clocked → Option Report → Prop where
  | idle {t : Turn} (now : Nat) (quiet : t.frame? = none) : Effect s t { s with now } none
  | refused {t : Turn} {f : Frame} {r : Report} (attempt : t.frame? = some f)
      (answer : r.refused? = some s.attempts) (untimed : r ≠ .answered s.attempts (.error .timeout)) :
      Effect s t (s.tried s.box) (some r)
  | accepted {t : Turn} {f : Frame} {r : Report} (attempt : t.frame? = some f)
      (connected : s.box.connected = true) (room : s.box.line.length < s.box.room)
      (answer : r.accepted? = some s.attempts) :
      Effect s t (s.tried (s.box.push f)) (some r)
  | joined (f : Frame) (connected : s.box.connected = true) :
      Effect s (.emit f)
        (s.tried (s.box.join ⟨s.attempts, f, s.box.sendTimeout.deadline? s.now⟩)) none
  | served {w : Waiting} (there : w ∈ s.box.line) (connected : s.box.connected = true)
      (place : s.box.hasPlace w.sender = true) :
      Effect s (.wake w.sender) { s with box := (s.box.cancel w.sender).push w.frame }
        (some (.answered w.sender (.ok ())))
  | left {t : Turn} {w : Waiting} {r : Report} (there : w ∈ s.box.line) (quiet : t.frame? = none)
      (answer : r.refused? = some w.sender)
      (late : ∀ n, r = .answered n (.error .timeout) → t = .wake n ∧ s.box.connected = true
        ∧ s.box.hasPlace n = false ∧ w.isDue s.now = true) :
      Effect s t { s with box := s.box.cancel w.sender } (some r)
  | received {f : Frame} {queue : List Frame} (first : s.box.queue = f :: queue) :
      Effect s .receive { s with box := { s.box with queue } } (some (.received f))
  | disconnected :
      Effect s .disconnect { s with box := { s.box with queue := [], connected := false } } none

/-- Every turn has one of these effects, so what all of them keep is kept. -/
theorem Clocked.effect (s : Clocked) (t : Turn) : Effect s t (s.turn t).1 (s.turn t).2 := by
  cases t with
  | lapse => exact .idle _ rfl
  | emit f =>
      simp only [turn]
      split
      · exact .refused rfl rfl nofun
      case isFalse hopen =>
        rw [Bool.not_eq_true, Bool.not_eq_false'] at hopen
        split
        case isTrue hroom => exact .accepted rfl hopen hroom rfl
        case isFalse => exact .joined f hopen
  | tryEmit f =>
      simp only [turn]
      split
      case isTrue h =>
        rw [Bool.and_eq_true, decide_eq_true_eq] at h
        exact .accepted rfl h.1 h.2 rfl
      case isFalse => exact .refused rfl rfl nofun
  | wake sender =>
      simp only [turn]
      split
      · exact .idle s.now rfl
      case h_2 w hfind =>
        have hthere := List.mem_of_find?_eq_some hfind
        have hsender : w.sender = sender := by simpa using List.find?_some hfind
        subst hsender
        split
        · exact .left hthere rfl rfl nofun
        case isFalse hopen =>
          rw [Bool.not_eq_true, Bool.not_eq_false'] at hopen
          split
          case isTrue hplace => exact .served hthere hopen hplace
          case isFalse hplace =>
            rw [Bool.not_eq_true] at hplace
            split
            case isTrue hdue =>
              refine .left hthere rfl rfl fun n hn => ?_
              obtain ⟨rfl, -⟩ := Report.answered.inj hn
              exact ⟨rfl, hopen, hplace, hdue⟩
            case isFalse => exact .idle s.now rfl
  | cancel sender =>
      simp only [turn]
      split
      case isTrue hany =>
        obtain ⟨w, hthere, hsender⟩ := List.any_eq_true.mp hany
        rw [beq_iff_eq] at hsender
        subst hsender
        exact .left hthere rfl rfl nofun
      case isFalse => exact .idle s.now rfl
  | receive =>
      simp only [turn]
      split
      · exact .idle s.now rfl
      case h_2 hfirst => exact .received hfirst
  | disconnect => exact .disconnected

variable {s : Clocked} {F : List Frame} {H : List Report} {r : Report}

-- ===================================================================== reports

/-- One more report adds at most one acceptance. -/
theorem accepted_concat (H : List Report) (r : Report) :
    accepted (H ++ [r]) = accepted H ++ r.accepted?.toList := by
  rw [accepted, List.filterMap_append]
  cases h : r.accepted? <;> simp [accepted, h]

/-- One more report adds at most one refusal. -/
theorem refused_concat (H : List Report) (r : Report) :
    refused (H ++ [r]) = refused H ++ r.refused?.toList := by
  rw [refused, List.filterMap_append]
  cases h : r.refused? <;> simp [refused, h]

/-- One more report adds at most one frame that was received. -/
theorem received_concat (H : List Report) (r : Report) :
    received (H ++ [r]) = received H ++ r.received?.toList := by
  rw [received, List.filterMap_append]
  cases h : r.received? <;> simp [received, h]

/-- What says that an attempt was accepted says nothing else. -/
theorem concat_of_accepted (H : List Report) {n : Nat} (h : r.accepted? = some n) :
    accepted (H ++ [r]) = accepted H ++ [n] ∧ refused (H ++ [r]) = refused H
      ∧ received (H ++ [r]) = received H := by
  have hother : r.refused? = none ∧ r.received? = none := by
    rcases r with ⟨_, _ | _⟩ | ⟨_, _ | _⟩ | _ | _
    all_goals first | exact ⟨rfl, rfl⟩ | exact nomatch h
  rw [accepted_concat, refused_concat, received_concat, h, hother.1, hother.2]
  exact ⟨rfl, List.append_nil _, List.append_nil _⟩

/-- Nor does what says that it was not. -/
theorem concat_of_refused (H : List Report) {n : Nat} (h : r.refused? = some n) :
    accepted (H ++ [r]) = accepted H ∧ refused (H ++ [r]) = refused H ++ [n]
      ∧ received (H ++ [r]) = received H := by
  have hother : r.accepted? = none ∧ r.received? = none := by
    rcases r with ⟨_, _ | _⟩ | ⟨_, _ | _⟩ | _ | _
    all_goals first | exact ⟨rfl, rfl⟩ | exact nomatch h
  rw [accepted_concat, refused_concat, received_concat, h, hother.1, hother.2]
  exact ⟨List.append_nil _, rfl, List.append_nil _⟩

section Ends

variable (A R : List Nat) (n : Nat)

/-- An attempt that is accepted is one more that has an end. -/
theorem perm_of_accepted (L : List Nat) : (A ++ [n] ++ R ++ L).Perm (A ++ R ++ L ++ [n]) := by
  refine List.perm_iff_count.mpr fun m => ?_
  simp only [List.count_append]
  omega

/-- The end of an attempt that is refused at once can be moved to the end of all attempts. -/
theorem perm_of_refused (L : List Nat) : (A ++ (R ++ [n]) ++ L).Perm (A ++ R ++ L ++ [n]) := by
  refine List.perm_iff_count.mpr fun m => ?_
  simp only [List.count_append]
  omega

/-- If it was in line it was there before. -/
theorem perm_of_left {L L' : List Nat} (h : L.Perm (n :: L')) :
    (A ++ R ++ L' ++ [n]).Perm (A ++ R ++ L) := by
  rw [List.append_assoc]
  exact ((List.perm_append_singleton n L').trans h.symm).append_left _

end Ends

-- ================================================================= the account

/-- What a history says of the outbox after it, where `F` are the frames of all
attempts. -/
structure Account (s : Clocked) (F : List Frame) (H : List Report) : Prop where
  attempts : s.attempts = F.length
  ordered : (s.box.line.map (·.sender)).Pairwise (· < ·)
  frames : ∀ w ∈ s.box.line, F[w.sender]? = some w.frame
  ends : (accepted H ++ refused H ++ s.box.line.map (·.sender)).Perm (List.range s.attempts)
  sent : ∃ lost, (accepted H).map (F[·]?) = (received H ++ s.box.queue ++ lost).map some
    ∧ (s.box.connected = true → lost = [])
  bounded : s.box.queue.length ≤ s.box.capacity

namespace Account

open Clocked (tried_box)

/-- Attempts in line were made. -/
theorem lt_attempts (h : Account s F H) {w : Waiting} (hw : w ∈ s.box.line) :
    w.sender < s.attempts := by
  obtain ⟨hlt, -⟩ := List.getElem?_eq_some_iff.mp (h.frames w hw)
  rw [h.attempts]
  exact hlt

/-- Nobody is in line twice. -/
theorem nodup (h : Account s F H) : (s.box.line.map (·.sender)).Nodup :=
  h.ordered.imp Nat.ne_of_lt

/-- The frames of what was accepted stay the same when there are more
attempts. -/
theorem map_frames (h : Account s F H) (f : Frame) :
    (accepted H).map ((F ++ [f])[·]?) = (accepted H).map (F[·]?) := by
  refine List.map_congr_left fun n hn => List.getElem?_append_left ?_
  have hmem := h.ends.mem_iff.mp (List.mem_append_left _ (List.mem_append_left _ hn))
  rw [← h.attempts]
  exact List.mem_range.mp hmem

/-- So do those of the senders in line. -/
theorem frames_concat (h : Account s F H) (f : Frame) {w : Waiting} (hw : w ∈ s.box.line) :
    (F ++ [f])[w.sender]? = some w.frame := by
  rw [List.getElem?_append_left (h.attempts ▸ h.lt_attempts hw)]
  exact h.frames w hw

/-- Who goes is no more in line, and all others are. -/
theorem perm_cancel (h : Account s F H) {w : Waiting} (hw : w ∈ s.box.line) :
    (s.box.line.map (·.sender)).Perm
      (w.sender :: (s.box.cancel w.sender).line.map (·.sender)) := by
  have hmem : w.sender ∈ s.box.line.map (·.sender) := List.mem_map_of_mem hw
  have herase := List.perm_cons_erase hmem
  rwa [h.nodup.erase_eq_filter, List.filter_map] at herase

/-- Time alone changes nothing in the account. -/
theorem idle (h : Account s F H) (now : Nat) : Account { s with now } F H :=
  ⟨h.attempts, h.ordered, h.frames, h.ends, h.sent, h.bounded⟩

/-- An attempt that is refused at once is accounted for by its report. -/
theorem refuse (h : Account s F H) (f : Frame) (hr : r.refused? = some s.attempts) :
    Account (s.tried s.box) (F ++ [f]) (H ++ [r]) := by
  obtain ⟨haccepted, hrefused, hreceived⟩ := concat_of_refused H hr
  refine ⟨?_, h.ordered, fun w hw => h.frames_concat f hw, ?_, ?_, h.bounded⟩
  · rw [List.length_append, ← h.attempts]
    rfl
  · show List.Perm _ (List.range (s.attempts + 1))
    rw [haccepted, hrefused, List.range_succ]
    exact (perm_of_refused _ _ _ _).trans (h.ends.append_right _)
  · rw [haccepted, hreceived, h.map_frames]
    exact h.sent

/-- An attempt that is accepted at once is accounted for by its report, and its frame is
the last of the queue. -/
theorem accept (h : Account s F H) (f : Frame) (hconnected : s.box.connected = true)
    (hroom : s.box.line.length < s.box.room) (hr : r.accepted? = some s.attempts) :
    Account (s.tried (s.box.push f)) (F ++ [f]) (H ++ [r]) := by
  obtain ⟨haccepted, hrefused, hreceived⟩ := concat_of_accepted H hr
  refine ⟨?_, h.ordered, fun w hw => h.frames_concat f hw, ?_, ⟨[], ?_, fun _ => rfl⟩, ?_⟩
  · rw [List.length_append, ← h.attempts]
    rfl
  · show List.Perm _ (List.range (s.attempts + 1))
    rw [haccepted, hrefused, List.range_succ]
    exact (perm_of_accepted _ _ _ _).trans (h.ends.append_right _)
  · obtain ⟨lost, hsent, hlost⟩ := h.sent
    obtain rfl := hlost hconnected
    rw [List.append_nil] at hsent
    have hframe : (F ++ [f])[s.attempts]? = some f := by
      rw [h.attempts]
      exact List.getElem?_concat_length
    rw [haccepted, hreceived, List.append_nil, List.map_append, h.map_frames, hsent]
    simp [push, hframe]
  · exact length_push_le (Nat.zero_lt_of_lt hroom) f

/-- An attempt without a report stands in line, behind all others. -/
theorem join (h : Account s F H) (f : Frame) (deadline? : Option Nat) :
    Account (s.tried (s.box.join ⟨s.attempts, f, deadline?⟩)) (F ++ [f]) H := by
  refine ⟨?_, ?_, ?_, ?_, ?_, h.bounded⟩
  · rw [List.length_append, ← h.attempts]
    rfl
  · rw [tried_box, line_join, List.map_append, List.pairwise_append]
    refine ⟨h.ordered, List.pairwise_singleton _ _, fun n hn m hm => ?_⟩
    obtain ⟨w, hw, rfl⟩ := List.mem_map.mp hn
    obtain rfl := List.mem_singleton.mp hm
    exact h.lt_attempts hw
  · refine Lookup.forall_mem_concat (fun w hw => h.frames_concat f hw) ?_
    rw [h.attempts]
    exact List.getElem?_concat_length
  · show List.Perm _ (List.range (s.attempts + 1))
    rw [tried_box, line_join, List.map_append, List.range_succ, ← List.append_assoc]
    exact h.ends.append_right _
  · rw [h.map_frames]
    exact h.sent

/-- Who leaves the line with a report is accounted for by it. -/
theorem leave (h : Account s F H) {w : Waiting} (hw : w ∈ s.box.line)
    (hr : r.refused? = some w.sender) :
    Account { s with box := s.box.cancel w.sender } F (H ++ [r]) := by
  obtain ⟨haccepted, hrefused, hreceived⟩ := concat_of_refused H hr
  refine ⟨h.attempts, ?_, fun v hv => h.frames v (List.mem_of_mem_filter hv), ?_, ?_, h.bounded⟩
  · exact h.ordered.sublist (List.filter_sublist.map _)
  · rw [haccepted, hrefused]
    exact (perm_of_refused _ _ _ _).trans ((perm_of_left _ _ _ (h.perm_cancel hw)).trans h.ends)
  · rw [haccepted, hreceived]
    exact h.sent

/-- Who takes its place leaves the line, and its frame is the last of the queue. -/
theorem serve (h : Account s F H) {w : Waiting} (hw : w ∈ s.box.line)
    (hconnected : s.box.connected = true) (hplace : s.box.hasPlace w.sender = true) :
    Account { s with box := (s.box.cancel w.sender).push w.frame } F
      (H ++ [.answered w.sender (.ok ())]) := by
  obtain ⟨haccepted, hrefused, hreceived⟩ :=
    concat_of_accepted H (r := .answered w.sender (.ok ())) rfl
  refine ⟨h.attempts, ?_, fun v hv => h.frames v (List.mem_of_mem_filter hv), ?_,
    ⟨[], ?_, fun _ => rfl⟩, ?_⟩
  · exact h.ordered.sublist (List.filter_sublist.map _)
  · rw [haccepted, hrefused]
    exact (perm_of_accepted _ _ _ _).trans ((perm_of_left _ _ _ (h.perm_cancel hw)).trans h.ends)
  · obtain ⟨lost, hsent, hlost⟩ := h.sent
    obtain rfl := hlost hconnected
    rw [List.append_nil] at hsent
    rw [haccepted, hreceived, List.append_nil, List.map_append, hsent]
    simp [push, cancel, h.frames w hw]
  · exact length_push_le (room_pos_of_hasPlace hplace) w.frame

/-- The frame that is received is the oldest that was accepted and not yet received. -/
theorem receive (h : Account s F H) {f : Frame} {queue : List Frame}
    (hfirst : s.box.queue = f :: queue) :
    Account { s with box := { s.box with queue } } F (H ++ [.received f]) := by
  have haccepted : accepted (H ++ [.received f]) = accepted H :=
    (accepted_concat _ _).trans (List.append_nil _)
  have hrefused : refused (H ++ [.received f]) = refused H :=
    (refused_concat _ _).trans (List.append_nil _)
  have hreceived : received (H ++ [.received f]) = received H ++ [f] := received_concat _ _
  refine ⟨h.attempts, h.ordered, h.frames, ?_, ?_, ?_⟩
  · rw [haccepted, hrefused]
    exact h.ends
  · obtain ⟨lost, hsent, hlost⟩ := h.sent
    refine ⟨lost, ?_, hlost⟩
    rw [haccepted, hreceived, hsent, hfirst]
    simp
  · have hbounded := h.bounded
    rw [hfirst, List.length_cons] at hbounded
    exact Nat.le_of_succ_le hbounded

/-- When the receiver is gone the frames in the queue are accepted but never
received. -/
theorem disconnect (h : Account s F H) :
    Account { s with box := { s.box with queue := [], connected := false } } F H := by
  refine ⟨h.attempts, h.ordered, h.frames, h.ends, ?_, Nat.zero_le _⟩
  obtain ⟨lost, hsent, -⟩ := h.sent
  refine ⟨s.box.queue ++ lost, ?_, nofun⟩
  rw [hsent, List.append_nil, List.append_assoc]

/-- Every turn keeps the account. -/
theorem turn (h : Account s F H) (t : Turn) :
    Account (s.turn t).1 (F ++ t.frame?.toList) (H ++ (s.turn t).2.toList) := by
  have heffect := s.effect t
  generalize (s.turn t).1 = s', (s.turn t).2 = r at heffect
  cases heffect with
  | idle now quiet =>
      rw [quiet, Option.toList_none, Option.toList_none, List.append_nil, List.append_nil]
      exact h.idle now
  | refused attempt answer =>
      rw [attempt]
      exact h.refuse _ answer
  | accepted attempt connected room answer =>
      rw [attempt]
      exact h.accept _ connected room answer
  | joined f =>
      rw [Option.toList_none, List.append_nil]
      exact h.join f _
  | served there connected place =>
      simp only [Turn.frame?, Option.toList_none, List.append_nil]
      exact h.serve there connected place
  | left there quiet answer =>
      rw [quiet, Option.toList_none, List.append_nil]
      exact h.leave there answer
  | received first =>
      simp only [Turn.frame?, Option.toList_none, List.append_nil]
      exact h.receive first
  | disconnected =>
      simp only [Turn.frame?, Option.toList_none, List.append_nil]
      exact h.disconnect

/-- By induction over the turns, an account of the start is one of the end. -/
theorem run (turns : List Turn) :
    ∀ {s : Clocked} {F : List Frame} {H : List Report}, Account s F H →
      Account (s.run turns) (F ++ attempted turns) (H ++ s.history turns) := by
  induction turns with
  | nil =>
      intro s F H h
      rw [attempted, List.filterMap_nil, Clocked.history, List.append_nil, List.append_nil]
      exact h
  | cons t turns ih =>
      intro s F H h
      have hframes : attempted (t :: turns) = t.frame?.toList ++ attempted turns := by
        cases hframe : t.frame? <;> simp [attempted, hframe]
      rw [hframes, Clocked.history, ← List.append_assoc, ← List.append_assoc]
      exact ih (h.turn t)

end Account

-- ============================================================ who has a place

/-- How many stand ahead of a sender. -/
def ahead (o : Outbox) (n : Nat) : Nat := (o.line.map (·.sender)).countP (· < n)

/-- A later sender has more ahead of it. -/
theorem ahead_lt {o : Outbox} {n m : Nat} (hn : n ∈ o.line.map (·.sender)) (h : n < m) :
    o.ahead n < o.ahead m := by
  have hperm := List.perm_cons_erase hn
  rw [ahead, ahead, hperm.countP_eq, hperm.countP_eq, List.countP_cons_of_neg (by simp),
    List.countP_cons_of_pos (by simpa using h)]
  refine Nat.lt_succ_of_le (List.countP_mono_left fun k _ hk => ?_)
  rw [decide_eq_true_eq] at hk ⊢
  exact Nat.lt_trans hk h

/-- Nobody is ahead of himself. -/
theorem ahead_lt_length {o : Outbox} {n : Nat} (hn : n ∈ o.line.map (·.sender)) :
    o.ahead n < o.line.length := by
  rw [← List.length_map (·.sender), ahead, List.countP_lt_length_iff]
  exact ⟨n, hn, by simp⟩

/-- Who goes was ahead of those behind him. -/
theorem Account.ahead_cancel (h : Account s F H) {w : Waiting} (hw : w ∈ s.box.line) (n : Nat) :
    s.box.ahead n = (s.box.cancel w.sender).ahead n + if w.sender < n then 1 else 0 := by
  rw [ahead, (h.perm_cancel hw).countP_eq, List.countP_cons]
  simp [ahead]

/-- In a line whose numbers grow, to be among the first is to have few smaller numbers
before. -/
theorem any_take_iff {n : Nat} (line : List Waiting) :
    (line.map (·.sender)).Pairwise (· < ·) → n ∈ line.map (·.sender) → ∀ k,
      (line.take k).any (·.sender == n) = true ↔ (line.map (·.sender)).countP (· < n) < k := by
  induction line with
  | nil => exact fun _ hn => nomatch hn
  | cons w line ih =>
      intro hordered hn k
      rw [List.map_cons, List.pairwise_cons] at hordered
      cases k with
      | zero => simp
      | succ k =>
          by_cases hw : w.sender = n
          · subst hw
            have hnone : (line.map (·.sender)).countP (· < w.sender) = 0 := by
              rw [List.countP_eq_zero]
              intro m hm
              simpa using Nat.le_of_lt (hordered.1 m hm)
            simp [hnone]
          · rcases List.mem_cons.mp hn with rfl | hn
            · exact absurd rfl hw
            · have hbefore : w.sender < n := hordered.1 n hn
              have hrest := ih hordered.2 hn k
              simp only [List.take_succ_cons, List.any_cons, List.map_cons, List.countP_cons]
              simp [hw, hbefore, hrest]

/-- A sender has a place if there are more places than senders ahead of it. -/
theorem Account.hasPlace_iff (h : Account s F H) {n : Nat}
    (hn : n ∈ s.box.line.map (·.sender)) :
    s.box.hasPlace n = true ↔ s.box.ahead n < s.box.room :=
  any_take_iff s.box.line h.ordered hn s.box.room

/-- Who is served takes its own place: nobody else in line had it. -/
theorem Account.room_le_of_served (h : Account s F H) {w : Waiting} (hw : w ∈ s.box.line)
    (hplace : s.box.hasPlace w.sender = true) {n : Nat} (hn : n ∈ s.box.line.map (·.sender))
    (hne : n ≠ w.sender) (hafter : s.box.room - 1 ≤ (s.box.cancel w.sender).ahead n) :
    s.box.room ≤ s.box.ahead n := by
  have hcancel := h.ahead_cancel hw n
  have hahead := (h.hasPlace_iff (List.mem_map_of_mem hw)).mp hplace
  rcases Nat.lt_or_gt_of_ne hne with hbefore | hbehind
  · have hless := ahead_lt hn hbefore
    omega
  · rw [if_pos hbehind] at hcancel
    omega

/-- A sender stands in line and has no place. -/
structure Waits (o : Outbox) (n : Nat) : Prop where
  there : n ∈ o.line.map (·.sender)
  connected : o.connected = true
  placeless : o.hasPlace n = false

/-- Who waits without a place did so before, if it was in line at all. -/
theorem Waits.before {n : Nat} {t : Turn} (hwaits : (s.turn t).1.box.Waits n)
    (h : Account s F H) (hn : n < s.attempts) : s.box.Waits n := by
  have hafter := h.turn t
  have hroom : (s.turn t).1.box.room ≤ (s.turn t).1.box.ahead n := by
    rw [← Nat.not_lt, ← hafter.hasPlace_iff hwaits.there, hwaits.placeless]
    exact nofun
  have hplaceless (hthere : n ∈ s.box.line.map (·.sender)) (hle : s.box.room ≤ s.box.ahead n) :
      s.box.hasPlace n = false := by
    rwa [← Bool.not_eq_true, h.hasPlace_iff hthere, Nat.not_lt]
  have heffect := s.effect t
  generalize (s.turn t).1 = s', (s.turn t).2 = r at heffect hwaits hroom
  obtain ⟨hthere, hconnected, -⟩ := hwaits
  cases heffect with
  | idle | refused => exact ⟨hthere, hconnected, hplaceless hthere hroom⟩
  | @accepted _ f _ _ _ hfits =>
      -- whoever comes takes a place that nobody in line was to have
      have hahead : s.box.ahead n < s.box.line.length := ahead_lt_length hthere
      have hafter : s.box.room - 1 ≤ s.box.ahead n := by
        rw [← room_push s.box f]
        exact hroom
      omega
  | joined f =>
      rw [Clocked.tried_box, line_join, List.map_append, List.mem_append] at hthere
      rcases hthere with hthere | hnew
      · refine ⟨hthere, hconnected, hplaceless hthere (Nat.le_trans hroom ?_)⟩
        have hbehind : ¬ s.attempts < n := Nat.not_lt_of_le (Nat.le_of_lt hn)
        simp [ahead, hbehind]
      · exact absurd (List.mem_singleton.mp hnew) (Nat.ne_of_lt hn)
  | @served w hw _ hplace =>
      obtain ⟨v, hv, rfl⟩ := List.mem_map.mp hthere
      have hv' : v ∈ s.box.line := List.mem_of_mem_filter hv
      have hthere' : v.sender ∈ s.box.line.map (·.sender) := List.mem_map_of_mem hv'
      have hne : v.sender ≠ w.sender := by simpa [cancel] using (List.mem_filter.mp hv).2
      refine ⟨hthere', hconnected, hplaceless hthere' (h.room_le_of_served hw hplace hthere' hne ?_)⟩
      have hpush := room_push (s.box.cancel w.sender) w.frame
      exact Nat.le_trans (Nat.le_of_eq hpush.symm) hroom
  | @left _ w _ hw =>
      have hthere' : n ∈ s.box.line.map (·.sender) :=
        (List.filter_sublist.map _).subset hthere
      refine ⟨hthere', hconnected, hplaceless hthere' (Nat.le_trans hroom ?_)⟩
      rw [h.ahead_cancel hw n]
      exact Nat.le_add_right _ _
  | received first =>
      refine ⟨hthere, hconnected, hplaceless hthere (Nat.le_trans ?_ hroom)⟩
      rw [room, first]
      exact Nat.sub_le_sub_left (Nat.le_succ _) _
  | disconnected => cases hconnected

namespace Clocked

/-- Attempts are counted and never forgotten. -/
theorem attempts_le_turn (s : Clocked) (t : Turn) : s.attempts ≤ (s.turn t).1.attempts := by
  have heffect := s.effect t
  generalize (s.turn t).1 = s', (s.turn t).2 = r at heffect
  cases heffect with
  | refused | accepted | joined => exact Nat.le_succ _
  | idle | served | left | received | disconnected => exact Nat.le_refl _

/-- The capacity and the send timeout stay. -/
theorem terms_turn (s : Clocked) (t : Turn) :
    (s.turn t).1.box.capacity = s.box.capacity
      ∧ (s.turn t).1.box.sendTimeout = s.box.sendTimeout := by
  have heffect := s.effect t
  generalize (s.turn t).1 = s', (s.turn t).2 = r at heffect
  cases heffect <;> exact ⟨rfl, rfl⟩

/-- Nor does a run. -/
theorem terms_run (turns : List Turn) : ∀ s : Clocked,
    (s.run turns).box.capacity = s.box.capacity
      ∧ (s.run turns).box.sendTimeout = s.box.sendTimeout := by
  induction turns with
  | nil => exact fun _ => ⟨rfl, rfl⟩
  | cons t turns ih =>
      intro s
      obtain ⟨hcapacity, hspan⟩ := s.terms_turn t
      obtain ⟨hcapacity', hspan'⟩ := ih (s.turn t).1
      exact ⟨hcapacity'.trans hcapacity, hspan'.trans hspan⟩

/-- Only who waits without a place and is due times out, in its own turn. -/
theorem waits_of_timeout {t : Turn} {n : Nat}
    (h : (s.turn t).2 = some (.answered n (.error .timeout))) :
    t = .wake n ∧ s.box.Waits n ∧ ∃ w ∈ s.box.line, w.sender = n ∧ w.isDue s.now = true := by
  have heffect := s.effect t
  generalize (s.turn t).1 = s', (s.turn t).2 = r at heffect h
  cases heffect with
  | idle | joined | disconnected => cases h
  | served | received => cases Option.some.inj h
  | refused _ answer untimed =>
      obtain rfl := Option.some.inj h
      obtain rfl := Option.some.inj answer
      exact absurd rfl untimed
  | accepted _ _ _ answer =>
      obtain rfl := Option.some.inj h
      cases answer
  | @left _ w _ there _ answer late =>
      obtain rfl := Option.some.inj h
      obtain rfl := Option.some.inj answer
      obtain ⟨rfl, hconnected, hplaceless, hdue⟩ := late _ rfl
      exact ⟨rfl, ⟨List.mem_map_of_mem there, hconnected, hplaceless⟩, w, there, rfl, hdue⟩

/-- Who is in line after a turn was there before or came with it. -/
theorem mem_line_turn {t : Turn} {w : Waiting} (hw : w ∈ (s.turn t).1.box.line) :
    w ∈ s.box.line
    ∨ ∃ f, t = .emit f ∧ w = ⟨s.attempts, f, s.box.sendTimeout.deadline? s.now⟩ := by
  have heffect := s.effect t
  generalize (s.turn t).1 = s', (s.turn t).2 = r at heffect hw
  cases heffect with
  | idle | refused | accepted | received | disconnected => exact .inl hw
  | joined f =>
      rcases List.mem_append.mp hw with hw | hw
      · exact .inl hw
      · exact .inr ⟨f, rfl, List.mem_singleton.mp hw⟩
  | served | left => exact .inl (List.mem_of_mem_filter hw)

/-- Whoever is in line came with an attempt. -/
theorem exists_emit {w : Waiting} (turns : List Turn) :
    ∀ {s : Clocked}, w ∉ s.box.line → w ∈ (s.run turns).box.line →
      ∃ before f after, turns = before ++ .emit f :: after
        ∧ w = ⟨(s.run before).attempts, f, s.box.sendTimeout.deadline? (s.run before).now⟩ := by
  induction turns with
  | nil => exact fun hnot hw => absurd hw hnot
  | cons t turns ih =>
      intro s hnot hw
      by_cases hnow : w ∈ (s.turn t).1.box.line
      · obtain hthere | ⟨f, rfl, hjoined⟩ := mem_line_turn hnow
        · exact absurd hthere hnot
        · exact ⟨[], f, turns, rfl, hjoined⟩
      · obtain ⟨before, f, after, rfl, hjoined⟩ := ih hnow hw
        rw [(s.terms_turn t).2] at hjoined
        exact ⟨t :: before, f, after, rfl, hjoined⟩

end Clocked

/-- Who waits without a place did so in every state since it came. -/
theorem Waits.before_run {n : Nat} (turns : List Turn) :
    ∀ {s : Clocked} {F : List Frame} {H : List Report}, (s.run turns).box.Waits n →
      Account s F H → n < s.attempts → s.box.Waits n := by
  induction turns with
  | nil => exact fun hwaits _ _ => hwaits
  | cons t turns ih =>
      intro s F H hwaits h hn
      have hafter := ih hwaits (h.turn t) (Nat.lt_of_lt_of_le hn (s.attempts_le_turn t))
      exact hafter.before h hn

-- ==================================================================== from the start

/-- An outbox to which nothing has happened. -/
def Clocked.start (capacity : Nat) (sendTimeout : Span) : Clocked where
  box := { capacity, sendTimeout }

variable {capacity : Nat} {sendTimeout : Span}

/-- At the start there is nothing to account for. -/
theorem account_start (capacity : Nat) (sendTimeout : Span) :
    Account (.start capacity sendTimeout) [] [] where
  attempts := rfl
  ordered := .nil
  frames := fun _ h => nomatch h
  ends := .nil
  sent := ⟨[], rfl, fun _ => rfl⟩
  bounded := Nat.zero_le _

/-- So every run from the start has its account. -/
theorem account (capacity : Nat) (sendTimeout : Span) (turns : List Turn) :
    Account ((Clocked.start capacity sendTimeout).run turns) (attempted turns)
      ((Clocked.start capacity sendTimeout).history turns) :=
  (account_start capacity sendTimeout).run turns

/-- A send timed out in a turn of its own, its send timeout after it began or
later, and until then it was in line without a place. The clock can show when
its wait was over. -/
theorem timeouts_come_late {before : List Turn} {t : Turn} {n : Nat}
    (h : (((Clocked.start capacity sendTimeout).run before).turn t).2
      = some (.answered n (.error .timeout))) :
    t = .wake n ∧ ∃ first f mid, before = first ++ .emit f :: mid
      ∧ n = (attempted first).length
      ∧ ((Clocked.start capacity sendTimeout).run first).now + sendTimeout.nanos ≤ Clock.last
      ∧ ((Clocked.start capacity sendTimeout).run first).now + sendTimeout.nanos
          ≤ ((Clocked.start capacity sendTimeout).run before).now
      ∧ ∀ part rest, mid = part ++ rest →
          ((Clocked.start capacity sendTimeout).run (first ++ .emit f :: part)).box.Waits n := by
  obtain ⟨rfl, hwaits, w, hw, rfl, hdue⟩ := Clocked.waits_of_timeout h
  obtain ⟨first, f, mid, rfl, rfl⟩ := Clocked.exists_emit before List.not_mem_nil hw
  obtain ⟨until', hdeadline, hlate⟩ := (Option.any_eq_true _ _).mp hdue
  obtain ⟨rfl, hshown⟩ := Span.deadline?_eq_some_iff.mp hdeadline
  refine ⟨rfl, first, f, mid, rfl, (account _ _ first).attempts, hshown,
    of_decide_eq_true hlate, ?_⟩
  rintro part rest rfl
  have hbegun := account capacity sendTimeout (first ++ .emit f :: part)
  rw [← List.cons_append, ← List.append_assoc, Clocked.run_append] at hwaits
  have hframes : attempted (first ++ .emit f :: part) = attempted first ++ f :: attempted part :=
    List.filterMap_append.trans (congrArg _ (List.filterMap_cons_some rfl))
  refine hwaits.before_run rest hbegun ?_
  rw [hbegun.attempts, hframes, (account _ _ first).attempts, List.length_append]
  exact Nat.lt_add_of_pos_right (Nat.succ_pos _)

end DeviceTwin.Outbox
