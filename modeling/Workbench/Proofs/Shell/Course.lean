import Workbench.Input.Handle

/-!
What a shell goes through: the courses of its interactions with a host, the things that may happen to it
from outside, and the histories that these add up to.
-/

namespace Workbench

inductive Deed where
  | signal (s : Signal)
  | request (r : HostRequest) (reply? : Option HostResponse)
deriving DecidableEq

def Deed.exchanges (ds : List Deed) : List (HostRequest × Option HostResponse) :=
  ds.filterMap fun
    | signal _ => none
    | request r reply? => some (r, reply?)

@[simp]
theorem Deed.exchanges_signal (s : Signal) (ds : List Deed)
    : exchanges (.signal s :: ds) = exchanges ds := by
  rfl

namespace Interaction

variable {α σ : Type}

inductive Course : Interaction α → List Deed → α → Prop where
  | done (a : α) : Course (.done a) [] a
  | signal {s : Signal} {next : Interaction α} {ds : List Deed} {a : α} :
    Course next ds a → Course (.signal s next) (.signal s :: ds) a
  | request {r : HostRequest} {next : Option HostResponse → Interaction α} {ds : List Deed} {a : α}
    (reply? : Option HostResponse) :
    Course (next reply?) ds a → Course (.request r next) (.request r reply? :: ds) a

theorem course_done_iff {a b : α} {ds : List Deed}
    : Course (.done a) ds b ↔ ds = [] ∧ b = a := by
  constructor
  · intro h
    cases h
    exact ⟨rfl, rfl⟩
  · rintro ⟨rfl, rfl⟩
    exact .done b

theorem course_signal_iff {s : Signal} {next : Interaction α} {ds : List Deed} {a : α}
    : Course (.signal s next) ds a ↔ ∃ ds', ds = .signal s :: ds' ∧ Course next ds' a := by
  constructor
  · intro h
    cases h with
    | signal h => exact ⟨_, rfl, h⟩
  · rintro ⟨ds', rfl, h⟩
    exact .signal h

theorem course_request_iff {r : HostRequest} {next : Option HostResponse → Interaction α}
    {ds : List Deed} {a : α}
    : Course (.request r next) ds a
      ↔ ∃ reply? ds', ds = .request r reply? :: ds' ∧ Course (next reply?) ds' a := by
  constructor
  · intro h
    cases h with
    | request reply? h => exact ⟨_, _, rfl, h⟩
  · rintro ⟨reply?, ds', rfl, h⟩
    exact .request reply? h

theorem course_signals_iff {ss : List Signal} {next : Interaction α} {ds : List Deed} {a : α}
    : Course (.signals ss next) ds a ↔ ∃ ds', ds = ss.map .signal ++ ds' ∧ Course next ds' a := by
  induction ss generalizing ds with
  | nil => simp [signals]
  | cons s ss ih =>
    have hcons : signals (s :: ss) next = .signal s (signals ss next) := rfl
    rw [hcons]
    rw [course_signal_iff]
    simp only [ih]
    constructor
    · rintro ⟨_, rfl, ds', rfl, h⟩
      exact ⟨ds', rfl, h⟩
    · rintro ⟨ds', rfl, h⟩
      exact ⟨_, rfl, ds', rfl, h⟩

def play (host : HostRequest → StateM σ (Option HostResponse)) (i : Interaction α) :
    StateM (σ × List Deed) α :=
  i.run (fun s => modify fun w => (w.1, w.2 ++ [.signal s]))
    fun r => modifyGet fun w =>
      let (reply?, next) := (host r).run w.1
      (reply?, next, w.2 ++ [.request r reply?])

def Served (host : HostRequest → StateM σ (Option HostResponse))
    : σ → List (HostRequest × Option HostResponse) → σ → Prop
  | w, [], w' => w' = w
  | w, (r, reply?) :: rest, w' =>
    reply? = ((host r).run w).1 ∧ Served host ((host r).run w).2 rest w'

variable (host : HostRequest → StateM σ (Option HostResponse))

theorem play_done (a : α) (w : σ × List Deed) : ((done a).play host).run w = (a, w) := by
  rfl

theorem play_signal (s : Signal) (next : Interaction α) (w : σ) (log : List Deed)
    : ((signal s next).play host).run (w, log) = (next.play host).run (w, log ++ [.signal s]) := by
  rfl

theorem play_request (r : HostRequest) (next : Option HostResponse → Interaction α) (w : σ)
    (log : List Deed)
    : ((request r next).play host).run (w, log)
      = ((next ((host r).run w).1).play host).run
          (((host r).run w).2, log ++ [.request r ((host r).run w).1]) := by
  rfl

theorem play_spec (i : Interaction α) (w : σ) (log : List Deed)
    : ∃ a w' ds, (i.play host).run (w, log) = (a, w', log ++ ds) ∧ Course i ds a
        ∧ Served host w (Deed.exchanges ds) w' := by
  induction i generalizing w log with
  | done a =>
    refine ⟨a, w, [], ?_, .done a, rfl⟩
    rw [play_done]
    rw [List.append_nil]
  | signal s next ih =>
    obtain ⟨a, w', ds, hplay, hcourse, hserved⟩ := ih w (log ++ [.signal s])
    refine ⟨a, w', .signal s :: ds, ?_, .signal hcourse, hserved⟩
    rw [play_signal]
    rw [hplay]
    simp
  | request r next ih =>
    obtain ⟨a, w', ds, hplay, hcourse, hserved⟩ :=
      ih ((host r).run w).1 ((host r).run w).2 (log ++ [.request r ((host r).run w).1])
    refine ⟨a, w', .request r ((host r).run w).1 :: ds, ?_, .request _ hcourse, rfl, hserved⟩
    rw [play_request]
    rw [hplay]
    simp

theorem course_of_play {host : HostRequest → StateM σ (Option HostResponse)} {i : Interaction α}
    {w w' : σ} {ds : List Deed} {a : α}
    (h : (i.play host).run (w, []) = (a, w', ds))
    : Course i ds a ∧ Served host w (Deed.exchanges ds) w' := by
  obtain ⟨b, v, es, hplay, hcourse, hserved⟩ := play_spec host i w []
  rw [hplay] at h
  rw [List.nil_append] at h
  cases h
  exact ⟨hcourse, hserved⟩

end Interaction
end Workbench
