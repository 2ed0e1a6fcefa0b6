/-
Asking for all acknowledgements of a change, or for one of them.

A handler is handed all requests of a change at once or the one for a label.
Each way reads the headers of the change anew and builds its requests from
nothing. They agree because a request is a function of its label
(`Change.find?_ackRequests`), so the first label that is asked for has the
first request.

What is asked for is what stands in the headers of the event, even after the
change was moved or enriched (`Change.revised_headers`), and what a request
takes from them is a channel and a correlation id (`Change.answers_of_mem`).
-/
import DeviceTwin.Proofs.Dispatcher.Acknowledge
import DeviceTwin.Proofs.RequestedAcks

namespace DeviceTwin

/-- The name of the channel that headers name: twin if they name none that is known. -/
theorem Headers.name_channel (h : Headers) :
    h.channel.name
      = if h.get? channelKey = some "live" then "live"
        else if h.get? channelKey = some "none" then "none" else "twin" := by
  rcases h.channel_cases with ⟨c, hname, hc⟩ | ⟨hnone, htwin⟩
  · rw [hname, hc]
    cases c <;> rfl
  · have hlive : h.get? channelKey ≠ some "live" := hnone .live
    have hother : h.get? channelKey ≠ some "none" := hnone .none
    rw [htwin, if_neg hlive, if_neg hother]
    rfl

/-- A request for an answer to a change: it is about the entity of the change and
has its channel and its correlation id, and nothing else of its headers. -/
structure AckRequest.Answers (r : AckRequest) (origin : Change) : Prop where
  entity : r.entity = origin.entity
  headers : ∀ key, r.headers.get? key
    = if key = Headers.correlationKey then origin.headers.get? Headers.correlationKey
      else if key = Headers.channelKey then
        some (if origin.headers.get? Headers.channelKey = some "live" then "live"
          else if origin.headers.get? Headers.channelKey = some "none" then "none" else "twin")
      else none

namespace Change

-- ================================================================== revisions

/-- A step by which another change is made of a change. -/
inductive Revision where
  | enrich (extra : Option Payload)
  | move (path : Pointer) (value : Option Payload)

/-- The change after a step. -/
def revise (c : Change) : Revision → Change
  | .enrich extra => c.withExtra extra
  | .move path value => c.withPathAndValue path value

/-- The change after some steps. -/
def revised (c : Change) (steps : List Revision) : Change := steps.foldl revise c

variable {c : Change} {label : String}

/-- No step touches whom the change is about nor what was asked for. -/
theorem revised_headers (steps : List Revision) :
    ∀ c : Change, (c.revised steps).entity = c.entity ∧ (c.revised steps).headers = c.headers := by
  induction steps with
  | nil => exact fun c => ⟨rfl, rfl⟩
  | cons step steps ih =>
      intro c
      have hstep : (c.revise step).entity = c.entity ∧ (c.revise step).headers = c.headers := by
        cases step <;> exact ⟨rfl, rfl⟩
      obtain ⟨hentity, hheaders⟩ := ih (c.revise step)
      exact ⟨hentity.trans hstep.1, hheaders.trans hstep.2⟩

-- =================================================================== handlers

/-- What a function returns that is given a handler, and what it handed to it. -/
def noting {α β : Type} (f : (α → StateM (List α) Unit) → StateM (List α) β) : β × List α :=
  (f fun a => modify (· ++ [a])).run []

theorem noting_handleAckRequests (c : Change) :
    noting c.handleAckRequests = ((), [c.ackRequests]) := rfl

theorem noting_handleAckRequest (c : Change) (label : String) :
    noting (c.handleAckRequest label)
      = ((c.ackRequest? label).isSome, (c.ackRequest? label).toList) := by
  unfold noting handleAckRequest
  cases c.ackRequest? label <;> rfl

-- =================================================================== requests

theorem labels_ackRequests (c : Change) : c.ackRequests.map (·.label) = c.requestedAcks := by
  rw [ackRequests, List.map_map]
  exact List.map_id _

/-- The request for a label is the first one of it. -/
theorem find?_ackRequests (c : Change) (label : String) :
    c.ackRequests.find? (·.label == label) = c.ackRequest? label := by
  rw [ackRequests, List.find?_map]
  rfl

/-- A request of a change is one of the event that it comes from. -/
theorem answers_of_mem {r : AckRequest} {origin : Change} {steps : List Revision}
    (h : r ∈ (origin.revised steps).ackRequests) : r.Answers origin := by
  obtain ⟨label, -, rfl⟩ := List.mem_map.mp h
  obtain ⟨hentity, hheaders⟩ := revised_headers steps origin
  refine ⟨hentity, fun key => ?_⟩
  rw [← origin.headers.name_channel, ← hheaders]
  show (origin.revised steps).answerHeaders.get? key = _
  rw [answerHeaders_eq, Headers.get?_routed]
  rfl

/-- However a change was moved and enriched, all requests are handed over at once,
one for each label of the list in its headers, in the order of the list, and none
if the header is anything else. Asking for one label hands over the first request
of it, says whether there is one, and does nothing if there is none. -/
theorem asking_for_all_or_one_agrees (origin : Change) (steps : List Revision)
    (label : String) :
    ∃ requests,
      (noting (origin.revised steps).handleAckRequests).2 = [requests]
      ∧ (∀ labels, origin.headers.Asks labels → requests.map (·.label) = labels)
      ∧ ((∀ labels, ¬ origin.headers.Asks labels) → requests = [])
      ∧ ((noting ((origin.revised steps).handleAckRequest label)).1 = true
          ↔ ∃ r ∈ requests, r.label = label)
      ∧ (noting ((origin.revised steps).handleAckRequest label)).2
          = (requests.find? (·.label == label)).toList
      ∧ ∀ r ∈ requests, r.Answers origin := by
  obtain ⟨-, hheaders⟩ := revised_headers steps origin
  have hlabels : (origin.revised steps).ackRequests.map (·.label)
      = origin.headers.requestedAcks := by
    rw [labels_ackRequests, requestedAcks, hheaders]
  refine ⟨(origin.revised steps).ackRequests, ?all, ?order, ?nothing, ?whether, ?first,
    fun r => answers_of_mem⟩
  case all => rw [noting_handleAckRequests]
  case order =>
    intro labels hasks
    rw [hlabels, Headers.requestedAcks_eq hasks]
  case nothing =>
    intro hnone
    rw [Headers.requestedAcks_eq_nil hnone] at hlabels
    exact List.map_eq_nil_iff.mp hlabels
  case whether =>
    rw [noting_handleAckRequest, ← find?_ackRequests, List.find?_isSome]
    simp only [beq_iff_eq]
  case first => rw [noting_handleAckRequest, find?_ackRequests]

end Change

end DeviceTwin
