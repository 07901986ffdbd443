import Workbench.Bridge.Codec
import Workbench.Proofs.Json.Records
import Workbench.Proofs.Shell.Runs
import Workbench.Service.Response

/-!
From the response of the service to the output panel. What a program has printed is shown only if the status
is a success and the body holds an output, and then to the letter; everything else is shown as an error, which
tells a failure's status and reason.
-/

namespace Workbench

def RunResponse.ReadFrom (body : List Char) (r : RunResponse) : Prop :=
  Json.RecordText outputForm.field.toList r.output.toList body

theorem RunResponse.readFrom_iff {body : List Char} {r : RunResponse}
    : r.ReadFrom body ↔ Json.readAll (Json.readRecord outputForm) body = .ok r.output.toList :=
  Json.readRecord_iff.symm

namespace Status

def InSuccess (s : Status) : Prop :=
  200 ≤ s.code ∧ s.code < 300

theorem isSuccess_iff (s : Status) : s.isSuccess = true ↔ s.InSuccess := by
  unfold isSuccess InSuccess
  rw [Bool.and_eq_true, decide_eq_true_iff, decide_eq_true_iff]

theorem isSuccess_eq_false {s : Status} (h : ¬ s.InSuccess) : s.isSuccess = false :=
  Bool.eq_false_iff.2 (mt s.isSuccess_iff.1 h)

structure Shows (s : Status) (body : List Char) (panel : OutputPanel) : Prop where
  program_iff : ∀ o, panel = .program o ↔ s.InSuccess ∧ RunResponse.ReadFrom body ⟨o⟩
  verbatim : ∀ o, panel = .program o → panel.text = if o = "" then "[No output]" else o
  otherwise : (∀ o, panel ≠ .program o) →
    ∃ message, panel = .error message ∧ panel.text = "[Error] " ++ message
  failure : ¬ s.InSuccess → ∃ detail,
    panel.text = "[Error] service responded with status " ++ toString s.code ++ ": " ++ detail ∧
      (∀ o, RunResponse.ReadFrom body ⟨o⟩ → detail = o) ∧
      ((∀ o, ¬ RunResponse.ReadFrom body ⟨o⟩) → detail = s.reason?.getD "unexpected status")

theorem runResult_eq_ok {s : Status} {body : List Char} {o : String}
    : s.runResult body = .ok o ↔ s.InSuccess ∧ RunResponse.ReadFrom body ⟨o⟩ := by
  rw [RunResponse.readFrom_iff]
  unfold runResult
  dsimp only
  split
  next hsuccess =>
    rw [and_iff_right (s.isSuccess_iff.1 hsuccess)]
    split
    next output houtput =>
      rw [houtput]
      constructor
      · intro h
        cases h
        rw [String.toList_ofList]
      · intro h
        cases h
        rw [String.ofList_toList]
    next e he =>
      rw [he]
      constructor
      · intro h
        cases h
      · intro h
        cases h
  next hfails =>
    constructor
    · intro h
      cases h
    · intro h
      exact absurd (s.isSuccess_iff.2 h.1) hfails

def detail (s : Status) (decoded : Except Json.ReadError (List Char)) : String :=
  match decoded with
  | .ok text => String.ofList text
  | .error _ => s.reasonOr

theorem runResult_of_failure {s : Status} (h : ¬ s.InSuccess) (body : List Char)
    : s.runResult body
        = .error (.status s.code (s.detail (Json.readAll (Json.readRecord outputForm) body))) := by
  unfold runResult
  dsimp only
  rw [isSuccess_eq_false h]
  rfl

theorem detail_of_readFrom {s : Status} {body : List Char} {o : String} (h : RunResponse.ReadFrom body ⟨o⟩)
    : s.detail (Json.readAll (Json.readRecord outputForm) body) = o := by
  rw [RunResponse.readFrom_iff] at h
  rw [h]
  exact String.ofList_toList

theorem detail_of_not_readFrom {s : Status} {body : List Char} (h : ∀ o, ¬ RunResponse.ReadFrom body ⟨o⟩)
    : s.detail (Json.readAll (Json.readRecord outputForm) body) = s.reasonOr := by
  unfold detail
  split
  next text htext =>
    have hread : RunResponse.ReadFrom body ⟨String.ofList text⟩ := by
      rw [RunResponse.readFrom_iff]
      rw [htext]
      rw [String.toList_ofList]
    exact absurd hread (h _)
  next => rfl

theorem shows_shown (s : Status) (body : List Char) : s.Shows body (s.runResult body).shown where
  program_iff o := by
    rw [← runResult_eq_ok]
    constructor
    · exact Shell.shown_eq_program
    · intro h
      rw [h]
      rfl
  verbatim o h := by
    rw [h]
    unfold OutputPanel.text
    simp only [String.isEmpty_iff]
  otherwise h := by
    cases hresult : s.runResult body with
    | ok o => exact absurd (congrArg RunResult.shown hresult) (h o)
    | error e => exact ⟨e.message, rfl, rfl⟩
  failure h := by
    refine ⟨s.detail (Json.readAll (Json.readRecord outputForm) body), ?_, ?_, ?_⟩
    · rw [runResult_of_failure h]
      rfl
    · exact fun o ho => detail_of_readFrom ho
    · exact fun hnone => detail_of_not_readFrom hnone

theorem listResult_iff {s : Status} (hs : s.InSuccess) {names : List String} {body : List Char}
    : s.listResult body = .ok names ↔ Json.IsTextOf body (.arr (names.map .str)) := by
  rw [← Json.readTexts_iff]
  unfold listResult
  rw [s.isSuccess_iff.2 hs]
  rw [if_pos rfl]
  split
  next items hitems =>
    rw [hitems]
    rw [Except.ok.injEq, Except.ok.injEq]
    constructor
    · rintro rfl
      exact (Json.map_toList_ofList items).symm
    · rintro rfl
      rw [List.map_map]
      exact (List.map_congr_left fun s _ => String.ofList_toList).trans (List.map_id names)
  next e he =>
    rw [he]
    constructor
    · intro h
      cases h
    · intro h
      cases h

end Status

namespace Shell

/--
For every status and every body the awaited run ends in its output or in an error, and which of them it is and
what it says is fixed by the status and by the response that the body is a text of, if there is one. However
an output is written in JSON, it is shown to the letter, or told to the letter as the detail of a failure. The
names of functions are those of the list that the body is a text of.
-/
theorem shows_of_finishRun
    : (∀ (s : Shell) (id : Nat) (status : Status) (body : List Char), s.activeRun? = some id →
        status.Shows body (s.finishRun id (status.runResult body)).1.output) ∧
      (∀ (r : RunResponse) (body : List Char), Json.IsTextOf body r.toJson →
        ∀ (s : Shell) (id : Nat) (status : Status), s.activeRun? = some id →
          (status.InSuccess → (s.finishRun id (status.runResult body)).1.output = .program r.output) ∧
          (¬ status.InSuccess → status.runResult body = .error (.status status.code r.output) ∧
            (s.finishRun id (status.runResult body)).1.output
              = .error ("service responded with status " ++ toString status.code ++ ": " ++ r.output))) ∧
      (∀ (names : List String) (body : List Char) (status : Status), status.InSuccess →
        (status.listResult body = .ok names ↔ Json.IsTextOf body (.arr (names.map .str)))) ∧
      ∀ v : Json, Json.IsTextOf v.render.toList v := by
  refine ⟨?_, ?_, fun names body status hs => Status.listResult_iff hs, Json.isTextOf_render⟩
  · intro s id status body hactive
    rw [output_of_finishRun hactive]
    exact status.shows_shown body
  · intro r body h s id status hactive
    have hread : r.ReadFrom body := Json.recordText_of_isTextOf h
    rw [output_of_finishRun hactive]
    constructor
    · intro hs
      rw [Status.runResult_eq_ok.2 ⟨hs, hread⟩]
      rfl
    · intro hs
      rw [Status.runResult_of_failure hs]
      rw [Status.detail_of_readFrom hread]
      exact ⟨rfl, rfl⟩

theorem shows_of_finishRun_greeting
    : ((start builtIn "vs").beginRun.1.finishRun 1
          ((Status.mk 200 (by decide)).runResult (RunResponse.toJson ⟨"hi"⟩).render.toList)).1.output
        = .program "hi" :=
  (shows_of_finishRun.2.1 ⟨"hi"⟩ _ (shows_of_finishRun.2.2.2 _) _ 1 _ rfl).1 ⟨by decide, by decide⟩

end Shell

end Workbench
