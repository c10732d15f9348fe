import AcpBridge.Lib.Transition
import AcpBridge.Agent

/-! The connection as the host sees it: a transcript of its requests and of the messages it
reads, in order. A message is legal while the request it belongs to is open. -/
namespace AcpBridge

/-- A request of the host. A prompt names its session. -/
inductive Request
  | newSession
  | prompt (sessionId : String)
  | resumeSession
  | listSessions
  | closeSession
  | deleteSession
deriving DecidableEq

/-- The replies a request may be given. -/
def Request.Takes : Request → Reply → Prop
  | .prompt _, .stop reason => reason = .endTurn ∨ reason = .cancelled
  | .prompt _, .error _ | .newSession, .error _ | .resumeSession, .error _ => True
  | .newSession, .newSession _ => True
  | .resumeSession, .resumed => True
  | .listSessions, .sessions _ => True
  | .closeSession, .closed => True
  | .deleteSession, .deleted => True
  | _, _ => False

/-- An entry of the transcript. Requests are numbered in the order they are made, and an
update names its session only. -/
inductive Utterance
  | ask (request : Request)
  | update (sessionId : String) (update : SessionUpdate)
  | response (request : ℕ) (reply : Reply)
deriving DecidableEq

namespace Utterance

/-- The requests made. -/
def asks (log : List Utterance) : List Request :=
  log.filterMap fun
    | .ask q => some q
    | _ => none

/-- The messages read. -/
def heard (log : List Utterance) : List Utterance :=
  log.filter fun
    | .ask _ => false
    | _ => true

/-- Request `n` was made and has no reply yet. -/
def Open (log : List Utterance) (n : ℕ) (q : Request) : Prop :=
  (asks log)[n]? = some q ∧ ∀ reply, .response n reply ∉ log

/-- An update needs an open prompt of its session, a response its own open request. -/
def Legal (log : List Utterance) : Utterance → Prop
  | .ask _ => True
  | .update s _ => ∃ n, Open log n (.prompt s)
  | .response n reply => ∃ q, Open log n q ∧ q.Takes reply

end Utterance

open Utterance

/-- All legal transcripts. -/
def conversation : TransitionSystem (List Utterance) Utterance where
  init := []
  enabled := Legal
  next log u := log ++ [u]

namespace Utterance
variable {log log' : List Utterance} {n : ℕ} {q : Request}

@[simp] theorem asks_append (xs ys : List Utterance) : asks (xs ++ ys) = asks xs ++ asks ys :=
  List.filterMap_append

@[simp] theorem heard_append (xs ys : List Utterance) : heard (xs ++ ys) = heard xs ++ heard ys :=
  List.filter_append ..

@[simp] theorem asks_nil : asks [] = [] := rfl

@[simp] theorem asks_ask (q : Request) : asks (.ask q :: log) = q :: asks log := rfl

@[simp] theorem asks_update (s : String) (u : SessionUpdate) :
    asks (.update s u :: log) = asks log := rfl

@[simp] theorem asks_response (reply : Reply) : asks (.response n reply :: log) = asks log := rfl

@[simp] theorem asks_updates (s : String) (sent : List SessionUpdate) :
    asks (sent.map (.update s)) = [] := by simp [asks, List.filterMap_map]

theorem mem_heard_response {reply : Reply} :
    .response n reply ∈ heard log ↔ .response n reply ∈ log := by simp [heard]

theorem exec_conversation (log us : List Utterance) : conversation.exec log us = log ++ us := by
  induction us generalizing log with
  | nil => simp
  | cons u us ih =>
    rw [TransitionSystem.exec_cons, ih]
    simp [conversation]

theorem legal_of_reachable (h : conversation.Reachable log) {before after : List Utterance}
    {u : Utterance} (hlog : log = before ++ u :: after) : Legal before u := by
  obtain ⟨us, hr, rfl⟩ := h
  rw [show conversation.init = [] from rfl, exec_conversation, List.nil_append] at hlog
  subst hlog
  obtain ⟨_, hafter⟩ := TransitionSystem.along_append.mp hr
  rw [show conversation.init = [] from rfl, exec_conversation, List.nil_append] at hafter
  exact hafter.1

/-- A legal transcript responds to requests only, to each of them once at most. -/
theorem response_once (h : conversation.Reachable log) {before after : List Utterance}
    {reply : Reply} (hlog : log = before ++ .response n reply :: after) :
    n < (asks before).length ∧ ∀ reply', .response n reply' ∉ before ++ after := by
  obtain ⟨q, ⟨hq, hnone⟩, _⟩ := legal_of_reachable h hlog
  refine ⟨(List.getElem?_eq_some_iff.mp hq).1, fun reply' hmem => ?_⟩
  obtain hmem | hmem := List.mem_append.mp hmem
  · exact hnone reply' hmem
  · obtain ⟨front, back, rfl⟩ := List.append_of_mem hmem
    have hsplit : log = (before ++ .response n reply :: front) ++ .response n reply' :: back := by
      rw [hlog, List.append_assoc, List.cons_append]
    obtain ⟨_, ⟨_, hnone'⟩, _⟩ := legal_of_reachable h hsplit
    exact hnone' reply (by simp)

end Utterance
end AcpBridge
