import Mathlib.Data.List.Forall2
import Workbench.Bridge.Channel
import Workbench.Proofs.Bridge.Host
import Workbench.Proofs.Shell.Steps

/-!
Calls in a channel. However the calls of its callers interleave, the host answers the accepted ones in the
order in which they were sent, each once and as if there were no other callers, and a caller gets the
response to its own request or learns that there is none.
-/

namespace Workbench

namespace ChannelEvent

def accepted? : ChannelEvent → Option Nat
  | accept caller => some caller
  | _ => none

def answered? : ChannelEvent → Option (Nat × HostResponse)
  | answer caller response => some (caller, response)
  | _ => none

def Serves (caller : Nat) : ChannelEvent → Prop
  | take | answer _ _ => True
  | receive c _ => c = caller
  | _ => False

end ChannelEvent

namespace CallStage

def Settled : CallStage → Prop
  | replied _ | returned (some _) | abandoned => True
  | _ => False

end CallStage

namespace Host

variable {σ φ : Type} [FileSystem φ] (dialogs : Dialogs σ)

theorem run_serve_nil (d : Desk σ φ) : (serve dialogs []).run d = ([], d) := by
  rfl

theorem run_serve_concat (calls : List Envelope) (e : Envelope) (d : Desk σ φ)
    : (serve dialogs (calls ++ [e])).run d
      = (((serve dialogs calls).run d).1 ++ [((handle dialogs e).run ((serve dialogs calls).run d).2).1],
          ((handle dialogs e).run ((serve dialogs calls).run d).2).2) := by
  unfold serve
  rw [List.mapM_append]
  rw [List.mapM_cons]
  rfl

end Host

namespace HostChannel

variable {σ φ : Type} {c c' : HostChannel σ φ} {e : ChannelEvent} {caller id : Nat}
  {past more : List (HostChannel σ φ × ChannelEvent)}

def accepted (past : List (HostChannel σ φ × ChannelEvent)) : List Nat :=
  past.filterMap (·.2.accepted?)

def answered (past : List (HostChannel σ φ × ChannelEvent)) : List (Nat × HostResponse) :=
  past.filterMap (·.2.answered?)

def handled (past : List (HostChannel σ φ × ChannelEvent)) : List Nat :=
  (answered past).map (·.1)

def pending (c : HostChannel σ φ) : List Nat :=
  c.line.map (·.caller)

theorem accepted_append (past more : List (HostChannel σ φ × ChannelEvent))
    : accepted (past ++ more) = accepted past ++ accepted more := by
  apply List.filterMap_append

theorem answered_append (past more : List (HostChannel σ φ × ChannelEvent))
    : answered (past ++ more) = answered past ++ answered more := by
  apply List.filterMap_append

theorem handled_append (past more : List (HostChannel σ φ × ChannelEvent))
    : handled (past ++ more) = handled past ++ handled more := by
  unfold handled
  rw [answered_append]
  rw [List.map_append]

theorem accepted_concat (past : List (HostChannel σ φ × ChannelEvent)) (c : HostChannel σ φ)
    (e : ChannelEvent)
    : accepted (past ++ [(c, e)]) = accepted past ++ e.accepted?.toList := by
  rw [accepted_append]
  cases e <;> rfl

theorem answered_concat (past : List (HostChannel σ φ × ChannelEvent)) (c : HostChannel σ φ)
    (e : ChannelEvent)
    : answered (past ++ [(c, e)]) = answered past ++ e.answered?.toList := by
  rw [answered_append]
  cases e <;> rfl

theorem handled_concat (past : List (HostChannel σ φ × ChannelEvent)) (c : HostChannel σ φ)
    (e : ChannelEvent)
    : handled (past ++ [(c, e)]) = handled past ++ (e.answered?.map (·.1)).toList := by
  unfold handled
  rw [answered_concat]
  rw [List.map_append]
  cases e <;> rfl

section Move

variable (c : HostChannel σ φ) (caller id : Nat) (f : CallStage → CallStage)

@[simp]
theorem request?_move : (c.move caller f).request? id = c.request? id := by
  unfold move request?
  dsimp only
  rw [List.getElem?_modify]
  cases c.calls[id]? with
  | none => rfl
  | some call =>
    dsimp
    split <;> rfl

theorem stage?_move_self : (c.move caller f).stage? caller = (c.stage? caller).map f := by
  unfold move stage?
  dsimp only
  rw [List.getElem?_modify]
  cases c.calls[caller]? with
  | none => rfl
  | some call => simp

theorem stage?_move_of_ne (h : id ≠ caller) : (c.move caller f).stage? id = c.stage? id := by
  unfold move stage?
  dsimp only
  rw [List.getElem?_modify]
  cases c.calls[id]? with
  | none => rfl
  | some call => simp [h.symm]

end Move

inductive Turn (id : Nat) : ChannelEvent → Option CallStage → Option CallStage → Prop where
  | kept {e : ChannelEvent} (stage? : Option CallStage) : e.accepted? ≠ some id →
    (∀ response, e.answered? ≠ some (id, response)) → Turn id e stage? stage?
  | issued (request : HostRequest) : Turn id (.issue request) none (some .sending)
  | accepted : Turn id (.accept id) (some .sending) (some .waiting)
  | answered (response : HostResponse) {stage? stage?' : Option CallStage} :
    stage?' = stage?.map (.reply response) → Turn id (.answer id response) stage? stage?'
  | received (response : HostResponse) : Turn id (.receive id (some response))
    (some (.replied response)) (some (.returned (some response)))
  | refused : Turn id (.receive id none) (some .sending) (some (.returned none))
  | dropped : Turn id (.receive id none) (some .waiting) (some (.returned none))
  | abandoned (stage : CallStage) : (∀ reply?, stage ≠ .returned reply?) →
    Turn id (.abandon id) (some stage) (some .abandoned)

section Steps

variable [FileSystem φ] {dialogs : Dialogs σ}

theorem request?_of_step {request : HostRequest} (h : Step dialogs c e c')
    (hrequest : c.request? id = some request)
    : c'.request? id = some request := by
  cases h with
  | issue request' =>
    unfold request? at hrequest ⊢
    obtain ⟨call, hcall, heq⟩ := Option.map_eq_some_iff.1 hrequest
    obtain ⟨hlt, -⟩ := List.getElem?_eq_some_iff.1 hcall
    rw [List.getElem?_append_left hlt]
    exact hrequest
  | @accept caller _ hserving hroom hr hstage =>
    exact (request?_move c caller id fun _ => .waiting).trans hrequest
  | take hserving hnone hqueue => exact hrequest
  | @answer call hserving hcurrent =>
    exact (request?_move c call.caller id (.reply _)).trans hrequest
  | receive hstage => exact (request?_move c _ id _).trans hrequest
  | refused hended hstage => exact (request?_move c _ id _).trans hrequest
  | dropped hline hstage => exact (request?_move c _ id _).trans hrequest
  | abandon hstage hnot => exact (request?_move c _ id _).trans hrequest
  | stop hdesk => exact hrequest

omit [FileSystem φ] in
theorem turn_of_move {f : CallStage → CallStage}
    (hself : Turn caller e (c.stage? caller) ((c.stage? caller).map f))
    (haccepted : ∀ id ≠ caller, e.accepted? ≠ some id)
    (hanswered : ∀ id ≠ caller, ∀ response, e.answered? ≠ some (id, response)) (id : Nat)
    : Turn id e (c.stage? id) ((c.move caller f).stage? id) := by
  by_cases hid : id = caller
  · rw [hid]
    rw [stage?_move_self]
    exact hself
  · rw [stage?_move_of_ne c caller id f hid]
    exact .kept _ (haccepted id hid) (hanswered id hid)

theorem turn_of_step (h : Step dialogs c e c') (id : Nat) : Turn id e (c.stage? id) (c'.stage? id) := by
  cases h with
  | issue request =>
    unfold stage?
    dsimp only
    cases Nat.lt_trichotomy id c.calls.length with
    | inl hlt =>
      rw [List.getElem?_append_left hlt]
      exact .kept _ (by simp [ChannelEvent.accepted?]) (by simp [ChannelEvent.answered?])
    | inr hge =>
      rw [List.getElem?_append_right (by omega)]
      cases hge with
      | inl heq =>
        rw [heq]
        simp
        exact .issued request
      | inr hgt =>
        rw [List.getElem?_eq_none (by omega)]
        rw [List.getElem?_eq_none (by simp; omega)]
        exact .kept _ (by simp [ChannelEvent.accepted?]) (by simp [ChannelEvent.answered?])
  | @accept caller request hserving hroom hrequest hstage =>
    apply turn_of_move (c := c) (f := fun _ => .waiting)
    · rw [hstage]
      exact .accepted
    · intro id hid
      simp [ChannelEvent.accepted?, hid.symm]
    · simp [ChannelEvent.answered?]
  | take hserving hnone hqueue =>
    exact .kept _ (by simp [ChannelEvent.accepted?]) (by simp [ChannelEvent.answered?])
  | @answer call hserving hcurrent =>
    apply turn_of_move (c := c)
    · exact .answered _ rfl
    · simp [ChannelEvent.accepted?]
    · intro id hid
      simp [ChannelEvent.answered?, hid.symm]
  | receive hstage =>
    apply turn_of_move
    · rw [hstage]
      exact .received _
    · simp [ChannelEvent.accepted?]
    · simp [ChannelEvent.answered?]
  | refused hended hstage =>
    apply turn_of_move
    · rw [hstage]
      exact .refused
    · simp [ChannelEvent.accepted?]
    · simp [ChannelEvent.answered?]
  | dropped hline hstage =>
    apply turn_of_move
    · rw [hstage]
      exact .dropped
    · simp [ChannelEvent.accepted?]
    · simp [ChannelEvent.answered?]
  | @abandon caller stage hstage hnot =>
    apply turn_of_move
    · rw [hstage]
      exact .abandoned stage hnot
    · simp [ChannelEvent.accepted?]
    · simp [ChannelEvent.answered?]
  | stop hdesk =>
    exact .kept _ (by simp [ChannelEvent.accepted?]) (by simp [ChannelEvent.answered?])

structure Account (dialogs : Dialogs σ) (first : HostChannel σ φ)
    (past : List (HostChannel σ φ × ChannelEvent)) (c : HostChannel σ φ) : Prop where
  order : ∃ lost, accepted past = handled past ++ c.pending ++ lost ∧ (c.serving = true → lost = [])
  ended : c.serving = false → c.line = []
  once : (accepted past).Nodup
  arrived : ∀ id ∈ accepted past, ∃ stage, c.stage? id = some stage ∧ stage ≠ .sending
  waits : ∀ id, c.stage? id = some .waiting → id ∈ accepted past
  settled : ∀ id ∈ handled past, ∃ stage, c.stage? id = some stage ∧ stage.Settled
  replied : ∀ id response, c.stage? id = some (.replied response) ∨
    c.stage? id = some (.returned (some response)) → (id, response) ∈ answered past
  lost : ∀ id, c.stage? id = some (.returned none) → c.serving = false
  own : ∀ call ∈ c.line, ∃ request,
    c.request? call.caller = some request ∧ call.envelope = .of request
  answers : ∀ x ∈ answered past, ∃ (request : HostRequest) (d : Desk σ φ),
    c.request? x.1 = some request ∧ x.2 = ((Host.handle dialogs (.of request)).run d).1
  sequential : ∃ requests, List.Forall₂ (c.request? · = some ·) (handled past) requests ∧
    ∃ desk, (Host.serve dialogs (requests.map .of)).run first.desk
        = ((answered past).map (·.2), desk) ∧ (c.serving = true → c.desk = desk)

variable {first : HostChannel σ φ}

theorem order_step (h : Account dialogs first past c) (hstep : Step dialogs c e c')
    : ∃ lost, accepted (past ++ [(c, e)]) = handled (past ++ [(c, e)]) ++ c'.pending ++ lost
        ∧ (c'.serving = true → lost = []) := by
  obtain ⟨lost, horder, hnone⟩ := h.order
  rw [accepted_concat]
  rw [handled_concat]
  rw [horder]
  cases hstep with
  | accept hserving hroom hrequest hstage =>
    refine ⟨[], ?_, fun _ => rfl⟩
    rw [hnone hserving]
    unfold pending line move
    simp [ChannelEvent.accepted?, ChannelEvent.answered?]
  | take hserving hcurrent hqueue =>
    refine ⟨lost, ?_, hnone⟩
    unfold pending line
    simp [hcurrent, hqueue, ChannelEvent.accepted?, ChannelEvent.answered?]
  | answer hserving hcurrent =>
    refine ⟨lost, ?_, hnone⟩
    unfold pending line move
    simp [hcurrent, ChannelEvent.accepted?, ChannelEvent.answered?]
  | stop hdesk =>
    refine ⟨c.pending ++ lost, ?_, fun hserving => by contradiction⟩
    simp [pending, line, ChannelEvent.accepted?, ChannelEvent.answered?]
  | _ =>
    refine ⟨lost, ?_, hnone⟩
    simp [ChannelEvent.accepted?, ChannelEvent.answered?]
    rfl

theorem ended_step (h : Account dialogs first past c) (hstep : Step dialogs c e c')
    : c'.serving = false → c'.line = [] := by
  intro hended
  cases hstep with
  | accept hserving hroom hrequest hstage => exact absurd (hserving.symm.trans hended) (by simp)
  | take hserving hcurrent hqueue => exact absurd (hserving.symm.trans hended) (by simp)
  | answer hserving hcurrent => exact absurd (hserving.symm.trans hended) (by simp)
  | stop hdesk => rfl
  | _ => exact h.ended hended

theorem once_step (h : Account dialogs first past c) (hstep : Step dialogs c e c')
    : (accepted (past ++ [(c, e)])).Nodup := by
  rw [accepted_concat]
  cases hstep with
  | accept hserving hroom hrequest hstage =>
    -- a call that was accepted before is no longer being sent
    apply List.nodup_append.2
    refine ⟨h.once, by simp [ChannelEvent.accepted?], ?_⟩
    rintro id hid caller hcaller rfl
    obtain ⟨stage, hold, hne⟩ := h.arrived id hid
    rw [List.mem_singleton.1 hcaller] at hold
    rw [hstage] at hold
    exact hne (Option.some.inj hold).symm
  | _ => simpa [ChannelEvent.accepted?] using h.once

theorem arrived_step (h : Account dialogs first past c) (hstep : Step dialogs c e c')
    : ∀ id ∈ accepted (past ++ [(c, e)]), ∃ stage, c'.stage? id = some stage ∧ stage ≠ .sending := by
  intro id hid
  rw [accepted_concat] at hid
  have hturn := turn_of_step hstep id
  cases List.mem_append.1 hid with
  | inr hnow =>
    have haccepted : e.accepted? = some id := by simpa using hnow
    generalize c.stage? id = stage?, c'.stage? id = stage?' at hturn
    cases hturn with
    | kept _ hne hanswered => exact absurd haccepted hne
    | accepted => exact ⟨.waiting, rfl, by simp⟩
    | _ => contradiction
  | inl hbefore =>
    obtain ⟨stage, hstage, hne⟩ := h.arrived id hbefore
    rw [hstage] at hturn
    generalize c'.stage? id = stage?' at hturn
    cases hturn with
    | kept _ haccepted hanswered => exact ⟨stage, rfl, hne⟩
    | answered response hreply =>
      refine ⟨_, hreply, ?_⟩
      cases stage with
      | sending => exact absurd rfl hne
      | _ => simp [CallStage.reply]
    | accepted => exact absurd rfl hne
    | refused => exact absurd rfl hne
    | received response => exact ⟨_, rfl, by simp⟩
    | dropped => exact ⟨_, rfl, by simp⟩
    | abandoned _ hnot => exact ⟨_, rfl, by simp⟩

theorem waits_step (h : Account dialogs first past c) (hstep : Step dialogs c e c')
    : ∀ id, c'.stage? id = some .waiting → id ∈ accepted (past ++ [(c, e)]) := by
  intro id hwaiting
  rw [accepted_concat]
  have hturn := turn_of_step hstep id
  have hbefore := h.waits id
  rw [hwaiting] at hturn
  generalize c.stage? id = stage? at hturn hbefore
  cases hturn with
  | kept _ haccepted hanswered => exact List.mem_append_left _ (hbefore rfl)
  | accepted => exact List.mem_append_right _ (by simp [ChannelEvent.accepted?])
  | answered response hreply =>
    -- after an answer nobody waits for it
    obtain ⟨stage, -, hstage⟩ := Option.map_eq_some_iff.1 hreply.symm
    cases stage <;> simp [CallStage.reply] at hstage

theorem settled_reply {stage : CallStage} (hsending : stage ≠ .sending) (hlost : stage ≠ .returned none)
    (response : HostResponse)
    : (stage.reply response).Settled := by
  cases stage with
  | sending => exact absurd rfl hsending
  | returned reply? =>
    cases reply? with
    | none => exact absurd rfl hlost
    | some response => trivial
  | _ => trivial

theorem settled_of_turn {stage : CallStage} {stage? : Option CallStage} (hsettled : stage.Settled)
    (h : Turn id e (some stage) stage?)
    : ∃ stage', stage? = some stage' ∧ stage'.Settled := by
  cases h with
  | kept _ haccepted hanswered => exact ⟨stage, rfl, hsettled⟩
  | answered response hreply =>
    refine ⟨_, hreply, ?_⟩
    cases stage with
    | waiting => trivial
    | _ => exact hsettled
  | received response => exact ⟨_, rfl, trivial⟩
  | abandoned _ hnot => exact ⟨_, rfl, trivial⟩
  | accepted => exact hsettled.elim
  | refused => exact hsettled.elim
  | dropped => exact hsettled.elim

theorem settled_step (h : Account dialogs first past c) (hstep : Step dialogs c e c')
    : ∀ id ∈ handled (past ++ [(c, e)]), ∃ stage, c'.stage? id = some stage ∧ stage.Settled := by
  intro id hid
  rw [handled_concat] at hid
  have hturn := turn_of_step hstep id
  cases List.mem_append.1 hid with
  | inl hbefore =>
    obtain ⟨stage, hstage, hsettled⟩ := h.settled id hbefore
    rw [hstage] at hturn
    exact settled_of_turn hsettled hturn
  | inr hnow =>
    cases hstep with
    | @answer call hserving hcurrent =>
      have heq : id = call.caller := by simpa [ChannelEvent.answered?] using hnow
      -- the call was accepted and the host serves, so its caller waits or has gone away
      have hmem : id ∈ accepted past := by
        obtain ⟨lost, horder, -⟩ := h.order
        rw [horder]
        simp [pending, line, hcurrent, heq]
      obtain ⟨stage, hstage, hne⟩ := h.arrived id hmem
      have hlost : stage ≠ .returned none := by
        rintro rfl
        exact absurd (hserving.symm.trans (h.lost id hstage)) (by simp)
      refine ⟨_, ?_, settled_reply hne hlost ((Host.handle dialogs call.envelope).run c.desk).1⟩
      rw [heq] at hstage ⊢
      apply (stage?_move_self c call.caller (.reply _)).trans
      rw [hstage]
      rfl
    | _ => simp [ChannelEvent.answered?] at hnow

theorem replied_step (h : Account dialogs first past c) (hstep : Step dialogs c e c')
    : ∀ id response, c'.stage? id = some (.replied response) ∨
        c'.stage? id = some (.returned (some response)) →
        (id, response) ∈ answered (past ++ [(c, e)]) := by
  intro id response hreplied
  rw [answered_concat]
  have hturn := turn_of_step hstep id
  have hbefore := h.replied id response
  generalize c.stage? id = stage?, c'.stage? id = stage?' at hturn hbefore hreplied
  cases hturn with
  | kept _ haccepted hanswered => exact List.mem_append_left _ (hbefore hreplied)
  | received response' =>
    have heq : response' = response := by simpa using hreplied
    rw [heq] at hbefore
    exact List.mem_append_left _ (hbefore (.inl rfl))
  | answered response' hreply =>
    rw [hreply] at hreplied
    cases stage? with
    | none => simp at hreplied
    | some stage =>
      cases stage with
      | waiting =>
        have heq : response' = response := by simpa [CallStage.reply] using hreplied
        apply List.mem_append_right
        simp [ChannelEvent.answered?, heq]
      | _ => exact List.mem_append_left _ (hbefore hreplied)
  | _ => simp at hreplied

theorem mem_pending_of_waiting (h : Account dialogs first past c) (hserving : c.serving = true)
    (hstage : c.stage? id = some .waiting)
    : id ∈ c.pending := by
  obtain ⟨lost, horder, hnone⟩ := h.order
  have hmem := h.waits id hstage
  rw [horder] at hmem
  rw [hnone hserving] at hmem
  rw [List.append_nil] at hmem
  cases List.mem_append.1 hmem with
  | inr hpending => exact hpending
  | inl hhandled =>
    obtain ⟨stage, heq, hsettled⟩ := h.settled id hhandled
    rw [hstage] at heq
    cases heq
    exact hsettled.elim

theorem lost_step (h : Account dialogs first past c) (hstep : Step dialogs c e c')
    : ∀ id, c'.stage? id = some (.returned none) → c'.serving = false := by
  intro id hlost
  -- the host never starts to serve again
  have hended (hbefore : c.serving = false) : c'.serving = false := by
    cases hstep with
    | stop hdesk => rfl
    | _ => exact hbefore
  have hturn := turn_of_step hstep id
  rw [hlost] at hturn
  generalize hstage : c.stage? id = stage? at hturn
  cases hturn with
  | kept _ haccepted hanswered => exact hended (h.lost id hstage)
  | answered response hreply =>
    obtain ⟨stage, hsome, heq⟩ := Option.map_eq_some_iff.1 hreply.symm
    cases stage with
    | returned reply? =>
      cases heq
      exact hended (h.lost id (hstage.trans hsome))
    | _ => simp [CallStage.reply] at heq
  | refused =>
    cases hstep with
    | refused hnot _ => exact hnot
    | dropped hline hwaiting =>
      rw [hstage] at hwaiting
      contradiction
  | dropped =>
    cases hstep with
    | refused hnot _ => exact hnot
    | dropped hline hwaiting =>
      apply hended
      apply Bool.eq_false_iff.2
      intro hserving
      exact hline (mem_pending_of_waiting h hserving hstage)

theorem own_step (h : Account dialogs first past c) (hstep : Step dialogs c e c')
    : ∀ call ∈ c'.line, ∃ request,
        c'.request? call.caller = some request ∧ call.envelope = .of request := by
  intro call hcall
  have hkept (hbefore : call ∈ c.line) : ∃ request,
      c'.request? call.caller = some request ∧ call.envelope = .of request := by
    obtain ⟨request, hrequest, henvelope⟩ := h.own call hbefore
    exact ⟨request, request?_of_step hstep hrequest, henvelope⟩
  have hstep' := hstep
  cases hstep with
  | @accept caller request hserving hroom hrequest hstage =>
    unfold line move at hcall
    dsimp only at hcall
    rw [← List.append_assoc] at hcall
    cases List.mem_append.1 hcall with
    | inl hbefore => exact hkept hbefore
    | inr hnow =>
      rw [List.mem_singleton.1 hnow]
      exact ⟨request, request?_of_step hstep' hrequest, rfl⟩
  | take hserving hcurrent hqueue =>
    apply hkept
    unfold line at hcall ⊢
    rw [hcurrent, hqueue]
    exact hcall
  | answer hserving hcurrent =>
    apply hkept
    unfold line at hcall ⊢
    exact List.mem_append_right _ hcall
  | stop hdesk => contradiction
  | _ => exact hkept hcall

theorem answers_step (h : Account dialogs first past c) (hstep : Step dialogs c e c')
    : ∀ x ∈ answered (past ++ [(c, e)]), ∃ (request : HostRequest) (d : Desk σ φ),
        c'.request? x.1 = some request ∧ x.2 = ((Host.handle dialogs (.of request)).run d).1 := by
  intro x hx
  rw [answered_concat] at hx
  cases List.mem_append.1 hx with
  | inl hbefore =>
    obtain ⟨request, d, hrequest, heq⟩ := h.answers x hbefore
    exact ⟨request, d, request?_of_step hstep hrequest, heq⟩
  | inr hnow =>
    have hstep' := hstep
    cases hstep with
    | @answer call hserving hcurrent =>
      obtain ⟨request, hrequest, henvelope⟩ := h.own call (by simp [line, hcurrent])
      have heq := List.mem_singleton.1 hnow
      rw [heq]
      refine ⟨request, c.desk, request?_of_step hstep' hrequest, ?_⟩
      rw [henvelope]
    | _ => simp [ChannelEvent.answered?] at hnow

theorem sequential_step (h : Account dialogs first past c) (hstep : Step dialogs c e c')
    : ∃ requests, List.Forall₂ (c'.request? · = some ·) (handled (past ++ [(c, e)])) requests ∧
        ∃ desk, (Host.serve dialogs (requests.map .of)).run first.desk
            = ((answered (past ++ [(c, e)])).map (·.2), desk) ∧ (c'.serving = true → c'.desk = desk) := by
  obtain ⟨requests, hrequests, desk, hserve, hdesk⟩ := h.sequential
  have hkept : List.Forall₂ (c'.request? · = some ·) (handled past) requests :=
    hrequests.imp fun id request hrequest => request?_of_step hstep hrequest
  rw [handled_concat]
  rw [answered_concat]
  have hstep' := hstep
  cases hstep with
  | @answer call hserving hcurrent =>
    obtain ⟨request, hrequest, henvelope⟩ := h.own call (by simp [line, hcurrent])
    refine ⟨requests ++ [request], ?_, _, ?_, fun _ => rfl⟩
    · exact List.rel_append hkept (.cons (request?_of_step hstep' hrequest) .nil)
    · rw [List.map_append]
      rw [List.map_singleton]
      rw [Host.run_serve_concat]
      rw [hserve]
      rw [hdesk hserving]
      rw [henvelope]
      simp [ChannelEvent.answered?]
  | stop hstopped =>
    refine ⟨requests, ?_, desk, ?_, fun hserving => by contradiction⟩
    · simpa [ChannelEvent.answered?] using hkept
    · simpa [ChannelEvent.answered?] using hserve
  | _ =>
    refine ⟨requests, ?_, desk, ?_, hdesk⟩
    · simpa [ChannelEvent.answered?] using hkept
    · simpa [ChannelEvent.answered?] using hserve

theorem account_step (h : Account dialogs first past c) (hstep : Step dialogs c e c')
    : Account dialogs first (past ++ [(c, e)]) c' where
  order := order_step h hstep
  ended := ended_step h hstep
  once := once_step h hstep
  arrived := arrived_step h hstep
  waits := waits_step h hstep
  settled := settled_step h hstep
  replied := replied_step h hstep
  lost := lost_step h hstep
  own := own_step h hstep
  answers := answers_step h hstep
  sequential := sequential_step h hstep

end Steps

def fresh (desk : Desk σ φ) (capacity : Nat) : HostChannel σ φ :=
  { desk, capacity }

section Histories

variable [FileSystem φ] {dialogs : Dialogs σ} {desk : Desk σ φ} {capacity : Nat}

theorem account_fresh : Account dialogs (fresh desk capacity) [] (fresh desk capacity) where
  order := ⟨[], rfl, fun _ => rfl⟩
  ended h := by contradiction
  once := List.nodup_nil
  arrived id h := by contradiction
  waits id h := by contradiction
  settled id h := by contradiction
  replied id response h := by
    cases h with
    | inl h => contradiction
    | inr h => contradiction
  lost id h := by contradiction
  own call h := by contradiction
  answers x h := by contradiction
  sequential := ⟨[], .nil, desk, Host.run_serve_nil dialogs desk, fun _ => rfl⟩

theorem account_of_history (h : History (Step dialogs) (fresh desk capacity) past c)
    : Account dialogs (fresh desk capacity) past c := by
  induction h with
  | nil => exact account_fresh
  | snoc hpast hstep ih => exact account_step ih hstep

theorem serving_of_step (h : Step dialogs c e c') (hserving : c'.serving = true) : c.serving = true := by
  cases h with
  | stop hdesk => contradiction
  | _ => exact hserving

theorem serving_of_history (h : History (Step dialogs) c more c') (hserving : c'.serving = true)
    : c.serving = true := by
  induction h with
  | nil => exact hserving
  | snoc hmore hstep ih => exact ih (serving_of_step hstep hserving)

theorem answered_of_ended (h : History (Step dialogs) c more c') (hended : c.serving = false)
    : answered more = [] := by
  induction h with
  | nil => rfl
  | @snoc more c₁ c₂ e hmore hstep ih =>
    rw [answered_concat]
    rw [ih]
    cases hstep with
    | answer hserving hcurrent =>
      have hbefore := serving_of_history hmore hserving
      exact absurd (hbefore.symm.trans hended) (by simp)
    | _ => rfl

theorem accepted_eq (h : Account dialogs (fresh desk capacity) past c) (hserving : c.serving = true)
    : accepted past = handled past ++ c.pending := by
  obtain ⟨lost, horder, hnone⟩ := h.order
  rw [horder]
  rw [hnone hserving]
  rw [List.append_nil]

theorem pending_append_accepted (h : History (Step dialogs) (fresh desk capacity) past c)
    (hmore : History (Step dialogs) c more c') (hserving : c'.serving = true)
    : c.pending ++ accepted more = handled more ++ c'.pending := by
  have hbefore := accepted_eq (account_of_history h) (serving_of_history hmore hserving)
  have hafter := accepted_eq (account_of_history (h.append hmore)) hserving
  rw [accepted_append] at hafter
  rw [handled_append] at hafter
  rw [hbefore] at hafter
  rw [List.append_assoc] at hafter
  rw [List.append_assoc] at hafter
  exact List.append_cancel_left hafter

variable (dialogs) in
theorem exists_answer_current {call : HostCall} (hserving : c.serving = true)
    (hcurrent : c.current? = some call) (caller : Nat)
    : ∃ e c', Step dialogs c e c' ∧ e.Serves caller ∧ c'.serving = true ∧ c'.line = c.queue
        ∧ (∃ response, c'.stage? call.caller = (c.stage? call.caller).map (.reply response))
        ∧ ∀ id ≠ call.caller, c'.stage? id = c.stage? id := by
  refine ⟨_, _, .answer hserving hcurrent, trivial, hserving, rfl, ?_, ?_⟩
  · refine ⟨((Host.handle dialogs call.envelope).run c.desk).1, ?_⟩
    exact stage?_move_self c call.caller (.reply _)
  · intro id hid
    exact stage?_move_of_ne c call.caller id (.reply _) hid

variable (dialogs) in
theorem exists_answer {call : HostCall} {rest : List HostCall} (hserving : c.serving = true)
    (hline : c.line = call :: rest) (caller : Nat)
    : ∃ more c', History (Step dialogs) c more c' ∧ (∀ y ∈ more, y.2.Serves caller)
        ∧ c'.serving = true ∧ c'.line = rest
        ∧ (∃ response, c'.stage? call.caller = (c.stage? call.caller).map (.reply response))
        ∧ ∀ id ≠ call.caller, c'.stage? id = c.stage? id := by
  unfold line at hline
  cases hcurrent : c.current? with
  | some call' =>
    rw [hcurrent] at hline
    cases hline
    obtain ⟨e, c', hstep, hserves, hrest⟩ := exists_answer_current dialogs hserving hcurrent caller
    refine ⟨_, c', .snoc .nil hstep, ?_, hrest⟩
    intro y hy
    rw [List.mem_singleton.1 hy]
    exact hserves
  | none =>
    rw [hcurrent] at hline
    obtain ⟨e, c', hstep, hserves, hrest⟩ :=
      exists_answer_current dialogs (c := { c with current? := some call, queue := rest })
        hserving rfl caller
    refine ⟨_, c', .snoc (.snoc .nil (.take hserving hcurrent hline)) hstep, ?_, hrest⟩
    intro y hy
    cases List.mem_append.1 hy with
    | inl htake =>
      rw [List.mem_singleton.1 htake]
      trivial
    | inr hanswer =>
      rw [List.mem_singleton.1 hanswer]
      exact hserves

theorem exists_returned {before after : List HostCall} {call : HostCall} (hserving : c.serving = true)
    (hline : c.line = before ++ call :: after) (honce : c.pending.Nodup)
    (hstage : c.stage? call.caller = some .waiting)
    : ∃ more c' response, History (Step dialogs) c more c' ∧ (∀ y ∈ more, y.2.Serves call.caller)
        ∧ c'.serving = true ∧ c'.stage? call.caller = some (.returned (some response)) := by
  -- While the host serves, the answers of the calls before it are all that a caller has to wait for.
  unfold pending at honce
  rw [hline] at honce
  induction before generalizing c with
  | nil =>
    obtain ⟨more, c₁, hmore, hserves, hserving₁, -, ⟨response, hreply⟩, -⟩ :=
      exists_answer dialogs hserving hline call.caller
    rw [hstage] at hreply
    refine ⟨_, _, response, hmore.snoc (.receive hreply), ?_, hserving₁, ?_⟩
    · refine List.forall_mem_append.2 ⟨hserves, ?_⟩
      intro y hy
      rw [List.mem_singleton.1 hy]
      exact rfl
    · rw [stage?_move_self]
      rw [hreply]
      rfl
  | cons first before ih =>
    obtain ⟨more, c₁, hmore, hserves, hserving₁, hline₁, -, hkept⟩ :=
      exists_answer dialogs hserving hline call.caller
    have hne : call.caller ≠ first.caller := by
      rintro heq
      simp [heq] at honce
    have hstage₁ : c₁.stage? call.caller = some .waiting := (hkept _ hne).trans hstage
    obtain ⟨more', c₂, response, hmore', hserves', hrest⟩ :=
      ih hserving₁ hline₁ (List.nodup_cons.1 honce).2 hstage₁
    refine ⟨_, c₂, response, hmore.append hmore', ?_, hrest⟩
    exact List.forall_mem_append.2 ⟨hserves, hserves'⟩

end Histories

end HostChannel
end Workbench
