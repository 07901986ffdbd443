import Workbench.Bridge.Client
import Workbench.Proofs.Bridge.Channel
import Workbench.Session

/-!
Round trips. A host that speaks the version of its callers gives each of them a response of the right form,
and touches no file but the one that it is asked for. Through the channel every accepted call is answered
once, in the order of sending, and its caller gets that answer unless it has gone away.
-/

namespace Workbench

namespace HostRequest

def bridgeError? : HostRequest → Option HostResponse → Option BridgeError
  | openFile, reply? => errorOf (HostResponse.asOpenResult reply?)
  | saveFileAs defaultName, reply? => errorOf (HostResponse.asSaveTarget defaultName reply?)
  | writeFile path content, reply? => errorOf (HostResponse.asWriteOutcome path content reply?)
where
  errorOf {α : Type} : Except BridgeError α → Option BridgeError
    | .ok _ => none
    | .error e => some e

theorem bridgeError?_none (r : HostRequest) : r.bridgeError? none = some .disconnected := by
  cases r <;> rfl

theorem bridgeError?_of_matches {r : HostRequest} {response : HostResponse} (h : r.Matches response)
    : r.bridgeError? (some response) = none := by
  cases r with
  | openFile =>
    cases response with
    | openResult result => rfl
    | _ => contradiction
  | saveFileAs name =>
    cases response with
    | saveTarget target => rfl
    | _ => contradiction
  | writeFile path content =>
    cases response with
    | writeOutcome outcome => rfl
    | _ => contradiction

end HostRequest

variable {σ φ : Type} [FileSystem φ]

structure Host.Discreet (dialogs : Dialogs σ) (content? : φ → Path → Option ByteArray)
    (Apart : Path → Path → Prop) : Prop where
  refuses : ∀ (e : Envelope) (d : Desk σ φ), e.version ≠ protocolVersion →
    ((Host.handle dialogs e).run d).1
        = .rejected s!"unsupported protocol version {e.version} (host speaks {protocolVersion})" ∧
      ((Host.handle dialogs e).run d).2.pickers = d.pickers ∧
      ((Host.handle dialogs e).run d).2.store = d.store
  unaided : ∀ (e : Envelope), e.version ≠ protocolVersion → ∀ (other : FileSystem φ) (dialogs' : Dialogs σ),
    @Host.handle σ φ other dialogs' e = Host.handle dialogs e
  matching : ∀ (e : Envelope) (d : Desk σ φ), e.version = protocolVersion →
    e.request.Matches ((Host.handle dialogs e).run d).1
  access : ∀ (e : Envelope) (d : Desk σ φ), e.version = protocolVersion →
    e.request.Access d.store ((Host.handle dialogs e).run d).2.store
  reads : ∀ (e : Envelope) (d : Desk σ φ), (∀ path content, e.request ≠ .writeFile path content) →
    content? ((Host.handle dialogs e).run d).2.store = content? d.store
  writes : ∀ (e : Envelope) (d : Desk σ φ) (path : Path) (content : String) (q : Path),
    e.request = .writeFile path content → Apart path q →
    content? ((Host.handle dialogs e).run d).2.store q = content? d.store q

variable {dialogs : Dialogs σ} {content? : φ → Path → Option ByteArray} {Apart : Path → Path → Prop}

theorem Host.discreet (hfs : FileSystem.Confined content? Apart) (dialogs : Dialogs σ)
    : Host.Discreet dialogs content? Apart := by
  have hrefuses (e : Envelope) (d : Desk σ φ) (hne : e.version ≠ protocolVersion)
      : ((Host.handle dialogs e).run d).2.store = d.store := by
    obtain ⟨event, hrun⟩ := run_handle_of_ne dialogs e d hne
    rw [hrun]
  constructor
  case refuses =>
    intro e d hne
    obtain ⟨event, hrun⟩ := run_handle_of_ne dialogs e d hne
    rw [hrun]
    exact ⟨rfl, rfl, rfl⟩
  case unaided =>
    intro e hne other dialogs'
    unfold Host.handle
    rw [if_pos hne]
    rw [if_pos hne]
  case matching => exact handle_matches dialogs
  case access => exact handle_access dialogs
  case reads =>
    intro e d hread
    by_cases hversion : e.version = protocolVersion
    · exact (content_of_access hfs (handle_access dialogs e d hversion)).1 hread
    · rw [hrefuses e d hversion]
  case writes =>
    intro e d path content q hwrite hq
    by_cases hversion : e.version = protocolVersion
    · exact (content_of_access hfs (handle_access dialogs e d hversion)).2 path content q hwrite hq
    · rw [hrefuses e d hversion]

namespace HostChannel

structure Dependable (dialogs : Dialogs σ) (first : HostChannel σ φ)
    (past : List (HostChannel σ φ × ChannelEvent)) (c : HostChannel σ φ) : Prop where
  once : (accepted past).Nodup
  order : handled past <+: accepted past
  complete : c.serving = true → accepted past = handled past ++ c.pending
  sequential : ∃ requests, List.Forall₂ (c.request? · = some ·) (handled past) requests ∧
    ∃ desk, (Host.serve dialogs (requests.map .of)).run first.desk
        = ((answered past).map (·.2), desk) ∧ (c.serving = true → c.desk = desk)
  settled : ∀ id ∈ handled past, ∃ stage, c.stage? id = some stage ∧ stage.Settled
  outcome : ∀ id request reply?, c.calls[id]? = some (request, .returned reply?) →
    (∃ (response : HostResponse) (d : Desk σ φ), reply? = some response ∧ (id, response) ∈ answered past ∧
        response = ((Host.handle dialogs (.of request)).run d).1 ∧ request.bridgeError? reply? = none) ∨
      reply? = none ∧ c.serving = false ∧ request.bridgeError? reply? = some .disconnected
  prompt : ∀ more c', History (Step dialogs) c more c' → c'.serving = true →
    c.pending ++ accepted more = handled more ++ c'.pending
  lively : c.serving = true → ∀ call ∈ c.line, c.stage? call.caller = some .waiting →
    ∃ more c' response, History (Step dialogs) c more c' ∧ (∀ y ∈ more, y.2.Serves call.caller) ∧
      c'.serving = true ∧ c'.stage? call.caller = some (.returned (some response))
  ended : c.serving = false → ∀ id, c.stage? id = some .sending ∨ c.stage? id = some .waiting →
    (∃ c', Step dialogs c (.receive id none) c') ∧
      ∀ more c' reply?, History (Step dialogs) c more c' → c'.stage? id = some (.returned reply?) →
        reply? = none

variable {desk : Desk σ φ} {capacity id : Nat} {c c' : HostChannel σ φ}
  {past more : List (HostChannel σ φ × ChannelEvent)}

omit [FileSystem φ] in
theorem stage?_of_calls {request : HostRequest} {stage : CallStage}
    (h : c.calls[id]? = some (request, stage))
    : c.request? id = some request ∧ c.stage? id = some stage := by
  unfold request? stage?
  rw [h]
  exact ⟨rfl, rfl⟩

theorem outcome_of_account (h : Account dialogs (fresh desk capacity) past c) {request : HostRequest}
    {reply? : Option HostResponse} (hcall : c.calls[id]? = some (request, .returned reply?))
    : (∃ (response : HostResponse) (d : Desk σ φ), reply? = some response ∧ (id, response) ∈ answered past ∧
          response = ((Host.handle dialogs (.of request)).run d).1 ∧ request.bridgeError? reply? = none)
      ∨ reply? = none ∧ c.serving = false ∧ request.bridgeError? reply? = some .disconnected := by
  obtain ⟨hrequest, hstage⟩ := stage?_of_calls hcall
  cases reply? with
  | none => exact .inr ⟨rfl, h.lost id hstage, request.bridgeError?_none⟩
  | some response =>
    have hanswered := h.replied id response (.inr hstage)
    obtain ⟨request', d, hrequest', rfl⟩ := h.answers _ hanswered
    rw [hrequest] at hrequest'
    cases hrequest'
    refine .inl ⟨_, d, rfl, hanswered, rfl, ?_⟩
    exact HostRequest.bridgeError?_of_matches (Host.handle_matches dialogs (.of request) d rfl)

theorem eq_none_of_ended (h : History (Step dialogs) (fresh desk capacity) past c)
    (hended : c.serving = false) (hstage : c.stage? id = some .sending ∨ c.stage? id = some .waiting)
    (hmore : History (Step dialogs) c more c') {reply? : Option HostResponse}
    (hreturned : c'.stage? id = some (.returned reply?))
    : reply? = none := by
  cases reply? with
  | none => rfl
  | some response =>
    have hanswered := (account_of_history (h.append hmore)).replied id response (.inr hreturned)
    rw [answered_append] at hanswered
    rw [answered_of_ended hmore hended] at hanswered
    rw [List.append_nil] at hanswered
    obtain ⟨stage, heq, hsettled⟩ :=
      (account_of_history h).settled id (List.mem_map.2 ⟨_, hanswered, rfl⟩)
    cases hstage with
    | inl hsending =>
      rw [hsending] at heq
      cases heq
      exact hsettled.elim
    | inr hwaiting =>
      rw [hwaiting] at heq
      cases heq
      exact hsettled.elim

theorem dependable_of_history (hfs : FileSystem.Confined content? Apart) (dialogs : Dialogs σ)
    : Host.Discreet dialogs content? Apart
      ∧ ∀ (desk : Desk σ φ) (capacity : Nat) (past : List (HostChannel σ φ × ChannelEvent))
          (c : HostChannel σ φ), History (Step dialogs) (fresh desk capacity) past c →
          Dependable dialogs (fresh desk capacity) past c := by
  refine ⟨Host.discreet hfs dialogs, ?_⟩
  intro desk capacity past c h
  have haccount := account_of_history h
  constructor
  case once => exact haccount.once
  case order =>
    obtain ⟨lost, horder, -⟩ := haccount.order
    rw [horder]
    rw [List.append_assoc]
    apply List.prefix_append
  case complete => exact accepted_eq haccount
  case sequential => exact haccount.sequential
  case settled => exact haccount.settled
  case outcome =>
    intro id request reply? hcall
    exact outcome_of_account haccount hcall
  case prompt =>
    intro more c' hmore hserving
    exact pending_append_accepted h hmore hserving
  case lively =>
    intro hserving call hcall hstage
    obtain ⟨before, after, hline⟩ := List.append_of_mem hcall
    have honce : c.pending.Nodup := by
      have haccepted := haccount.once
      rw [accepted_eq haccount hserving] at haccepted
      exact (List.nodup_append.1 haccepted).2.1
    exact exists_returned hserving hline honce hstage
  case ended =>
    intro hended id hstage
    constructor
    · cases hstage with
      | inl hsending => exact ⟨_, .refused hended hsending⟩
      | inr hwaiting =>
        refine ⟨_, .dropped ?_ hwaiting⟩
        rw [haccount.ended hended]
        simp
    · intro more c' reply? hmore hreturned
      exact eq_none_of_ended h hended hstage hmore hreturned

def picking : Desk ScriptedPickers FileStore where
  pickers := { opens := [.ok (some "a")] }
  store := .ofEntries [("a", "hi".toUTF8)] []

theorem dependable_of_history_overtaken
    : FileSystem.Confined (fun (s : FileStore) p => (s.read p).toOption)
        (fun p q => FileStore.placeOf p ≠ FileStore.placeOf q)
      ∧ ∃ past c, History (Step ScriptedPickers.dialogs) (fresh picking 16) past c
        ∧ accepted past = [1, 0]
        ∧ c.stage? 0 = some (.returned (some (.openResult (.opened "a" "hi"))))
        ∧ c.stage? 1 = some (.returned (some (.writeOutcome (.written "b"))))
        ∧ Dependable ScriptedPickers.dialogs (fresh picking 16) past c := by
  have hissued : History (Step ScriptedPickers.dialogs) (fresh picking 16) _ _ :=
    .snoc (.snoc .nil (.issue _ .openFile)) (.issue _ (.writeFile "b" "x"))
  -- the second caller is the first to find room in the channel
  have haccepted := (hissued.snoc (show Step _ _ (.accept 1) _ from .accept rfl (by decide) rfl rfl)).snoc
    (show Step _ _ (.accept 0) _ from .accept rfl (by decide) rfl rfl)
  have hanswered := (((haccepted.snoc (.take rfl rfl rfl)).snoc (.answer rfl rfl)).snoc
    (.take rfl rfl rfl)).snoc (.answer rfl rfl)
  have hreceived := (hanswered.snoc (show Step _ _ (.receive 0 _) _ from .receive rfl)).snoc
    (show Step _ _ (.receive 1 _) _ from .receive rfl)
  have hdependable :=
    (dependable_of_history FileStore.lawful.confined ScriptedPickers.dialogs).2 _ _ _ _ hreceived
  refine ⟨FileStore.lawful.confined, _, _, hreceived, rfl, ?_, ?_, hdependable⟩
  · decide +kernel
  · decide +kernel

end HostChannel
end Workbench
