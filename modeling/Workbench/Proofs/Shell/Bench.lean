import Workbench.Proofs.Shell.Runs

/-!
Runs on the service. A run that was given up may have sent its report already, and reports arrive in any
order and more than once; only the report of the run that was started last is shown, and it is shown once.
-/

namespace Workbench

structure Bench where
  shell : Shell
  tasks : List (Nat × List Char) := []
  mail : List (Nat × RunResult) := []

inductive Occurrence where
  | shell (i : Happening)
  | completes (id : Nat) (result : RunResult)

namespace Occurrence

def started : Occurrence → List (Nat × List Char)
  | shell i => i.started
  | completes _ _ => []

def Keeps (id : Nat) : Occurrence → Prop
  | shell i => i.Keeps id
  | completes _ _ => True

def Writes (s : Shell) : Occurrence → Prop
  | shell i => i.Writes s
  | completes _ _ => False

end Occurrence

namespace Bench

variable {exec : List Char → RunResult → Prop} {w w' : Bench} {x : Occurrence}
  {past : List (Bench × Occurrence)}

/-- The service runs programs as `exec` has it. A report may be lost, late, repeated or made up,
except that the run that was started last is reported by its task only. -/
inductive Step (exec : List Char → RunResult → Prop) : Bench → Occurrence → Bench → Prop where
  | shell {w : Bench} {i : Happening} {s : Shell} : w.shell.Step i s →
    (∀ id result, i = .event (.runFinished id result) → 0 < id → id = w.shell.runCount →
      (id, result) ∈ w.mail) →
    Step exec w (.shell i) { w with shell := s, tasks := i.tasks w.tasks }
  | completes {w : Bench} {id : Nat} {code : List Char} {result : RunResult} :
    (id, code) ∈ w.tasks → exec code result →
    Step exec w (.completes id result)
      { w with tasks := w.tasks.erase (id, code), mail := w.mail ++ [(id, result)] }

def started (past : List (Bench × Occurrence)) : List (Nat × List Char) :=
  past.flatMap (·.2.started)

def Began (past : List (Bench × Occurrence)) (id : Nat) (code : List Char) : Prop :=
  ∃ y ∈ past, (id, code) ∈ y.2.started ∧ code = y.1.shell.editor.text

/-- The run was started, and since then there was no other start, no end of the program and no
report of it. -/
def Awaited (past : List (Bench × Occurrence)) (id : Nat) : Prop :=
  ∃ before y after, past = before ++ y :: after ∧ (∃ code, (id, code) ∈ y.2.started)
    ∧ ∀ z ∈ after, z.2.Keeps id

def Displays (y : Bench × Occurrence) (id : Nat) : Prop :=
  ∃ result, y.2 = .shell (.event (.runFinished id result))
    ∧ (y.1.shell.finishRun id result).1 ≠ y.1.shell

structure Ledger (exec : List Char → RunResult → Prop) (past : List (Bench × Occurrence)) (w : Bench) :
    Prop where
  ids : (started past).map Prod.fst = List.range' 1 w.shell.runCount
  tasks : ∀ t ∈ w.tasks, Began past t.1 t.2
  mail : ∀ m ∈ w.mail, ∃ code, Began past m.1 code ∧ exec code m.2
  sent : (w.tasks.map Prod.fst ++ w.mail.map Prod.fst).Nodup
  active : ∀ id, w.shell.activeRun? = some id ↔ Awaited past id
  last : ∀ id, w.shell.activeRun? = some id → 0 < id ∧ id = w.shell.runCount
  running : w.shell.running = true → w.shell.output = .running → w.shell.activeRun?.isSome
  program : ∀ o, w.shell.output = .program o →
    ∃ code, Began past w.shell.runCount code ∧ exec code (.ok o)
  empty : w.shell.output = .empty →
    ∀ y ∈ past, y.1.shell.output = .empty ∧ ¬ y.2.Writes y.1.shell
  displayed : ∀ y ∈ past, ∀ id, Displays y id →
    id ≤ w.shell.runCount ∧ w.shell.activeRun? ≠ some id
  once : past.Pairwise fun y z => ∀ m n, Displays y m → Displays z n → m < n

theorem started_concat (past : List (Bench × Occurrence)) (y : Bench × Occurrence)
    : started (past ++ [y]) = started past ++ y.2.started := by
  unfold started
  simp

theorem Began.concat {id : Nat} {code : List Char} (h : Began past id code) (y : Bench × Occurrence)
    : Began (past ++ [y]) id code := by
  obtain ⟨z, hz, hstarted⟩ := h
  exact ⟨z, List.mem_append_left _ hz, hstarted⟩

theorem awaited_concat (past : List (Bench × Occurrence)) (y : Bench × Occurrence) (id : Nat)
    : Awaited (past ++ [y]) id
      ↔ (∃ code, (id, code) ∈ y.2.started) ∨ Awaited past id ∧ y.2.Keeps id := by
  constructor
  · rintro ⟨before, z, after, heq, hstarted, hkeeps⟩
    -- either the start is the last thing that happened, or it was there before
    cases List.eq_nil_or_concat after with
    | inl hnil =>
      rw [hnil] at heq
      obtain ⟨-, hlast⟩ := List.append_inj' heq rfl
      cases List.singleton_inj.1 hlast
      exact .inl hstarted
    | inr hconcat =>
      obtain ⟨after', z', rfl⟩ := hconcat
      rw [List.concat_eq_append] at heq hkeeps
      rw [← List.cons_append] at heq
      rw [← List.append_assoc] at heq
      obtain ⟨hpast, hlast⟩ := List.append_inj' heq rfl
      cases List.singleton_inj.1 hlast
      apply Or.inr
      constructor
      · refine ⟨before, z, after', hpast, hstarted, ?_⟩
        intro z' hz'
        exact hkeeps z' (List.mem_append_left _ hz')
      · exact hkeeps y List.mem_concat_self
  · intro h
    cases h with
    | inl hstarted => exact ⟨past, y, [], rfl, hstarted, by simp⟩
    | inr hbefore =>
      obtain ⟨⟨before, z, after, rfl, hstarted, hkeeps⟩, hlast⟩ := hbefore
      refine ⟨before, z, after ++ [y], by simp, hstarted, ?_⟩
      intro z' hz'
      cases List.mem_append.1 hz' with
      | inl hmem => exact hkeeps z' hmem
      | inr hmem =>
        rw [List.mem_singleton.1 hmem]
        exact hlast

theorem began_of_started {i : Happening} {s : Shell} {t : Nat × List Char}
    (h : w.shell.RunStep i s) (ht : t ∈ i.started)
    : Began (past ++ [(w, .shell i)]) t.1 t.2 := by
  refine ⟨(w, .shell i), List.mem_concat_self, ht, ?_⟩
  cases Shell.runCount_of_runStep h with
  | inl hbegan =>
    rw [hbegan.1] at ht
    rw [List.mem_singleton.1 ht]
  | inr hkept =>
    rw [hkept.1] at ht
    contradiction

theorem ids_step (h : Ledger exec past w) (hstep : Step exec w x w')
    : (started (past ++ [(w, x)])).map Prod.fst = List.range' 1 w'.shell.runCount := by
  rw [started_concat]
  rw [List.map_append]
  rw [h.ids]
  cases hstep with
  | completes hmem hexec => simp [Occurrence.started]
  | shell hs hreport =>
    dsimp only [Occurrence.started]
    cases Shell.runCount_of_runStep (Shell.runStep_of_step hs) with
    | inl hbegan =>
      rw [hbegan.1]
      rw [hbegan.2]
      rw [List.range'_concat]
      simp [Nat.add_comm]
    | inr hkept =>
      rw [hkept.1]
      rw [hkept.2]
      simp

theorem tasks_step (h : Ledger exec past w) (hstep : Step exec w x w')
    : ∀ t ∈ w'.tasks, Began (past ++ [(w, x)]) t.1 t.2 := by
  intro t ht
  cases hstep with
  | completes hmem hexec => exact (h.tasks t (List.mem_of_mem_erase ht)).concat _
  | @shell i s hs hreport =>
    cases List.mem_append.1 ((i.tasks_sublist w.tasks).subset ht) with
    | inl hbefore => exact (h.tasks t hbefore).concat _
    | inr hnow => exact began_of_started (Shell.runStep_of_step hs) hnow

theorem mail_step (h : Ledger exec past w) (hstep : Step exec w x w')
    : ∀ m ∈ w'.mail, ∃ code, Began (past ++ [(w, x)]) m.1 code ∧ exec code m.2 := by
  intro m hm
  have hkept (hm : m ∈ w.mail) : ∃ code, Began (past ++ [(w, x)]) m.1 code ∧ exec code m.2 := by
    obtain ⟨code, hbegan, hexec⟩ := h.mail m hm
    exact ⟨code, hbegan.concat _, hexec⟩
  cases hstep with
  | shell hs hreport => exact hkept hm
  | completes hmem hexec =>
    cases List.mem_append.1 hm with
    | inl hbefore => exact hkept hbefore
    | inr hnow =>
      rw [List.mem_singleton.1 hnow]
      exact ⟨_, (h.tasks _ hmem).concat _, hexec⟩

theorem id_bounds (h : Ledger exec past w) {id : Nat} {code : List Char}
    (hbegan : Began past id code)
    : 0 < id ∧ id ≤ w.shell.runCount := by
  obtain ⟨y, hy, hstarted, -⟩ := hbegan
  have hmem : (id, code) ∈ started past := List.mem_flatMap.2 ⟨y, hy, hstarted⟩
  have hid : id ∈ (started past).map Prod.fst := List.mem_map.2 ⟨_, hmem, rfl⟩
  rw [h.ids] at hid
  rw [List.mem_range'_1] at hid
  omega

theorem sent_step (h : Ledger exec past w) (hstep : Step exec w x w')
    : (w'.tasks.map Prod.fst ++ w'.mail.map Prod.fst).Nodup := by
  cases hstep with
  | @completes id code result hmem hexec =>
    -- the completed run moves from the tasks to the reports
    have hperm := (List.perm_cons_erase hmem).map Prod.fst
    apply ((hperm.append_right _).nodup_iff.1 h.sent).perm
    rw [List.map_cons]
    rw [List.map_append]
    rw [← List.append_assoc]
    exact (List.perm_append_singleton _ _).symm
  | @shell i s hs hreport =>
    have hsub := (i.tasks_sublist w.tasks).map Prod.fst
    apply List.Nodup.sublist (hsub.append_right _)
    cases Shell.runCount_of_runStep (Shell.runStep_of_step hs) with
    | inr hkept =>
      rw [hkept.1]
      rw [List.append_nil]
      exact h.sent
    | inl hbegan =>
      -- the number of the new run is above all the others
      have hfresh : w.shell.runCount + 1 ∉ w.tasks.map Prod.fst ++ w.mail.map Prod.fst := by
        intro hmem
        cases List.mem_append.1 hmem with
        | inl htask =>
          obtain ⟨t, ht, heq⟩ := List.mem_map.1 htask
          have hle := (id_bounds h (h.tasks t ht)).2
          omega
        | inr hmail =>
          obtain ⟨m, hm, heq⟩ := List.mem_map.1 hmail
          obtain ⟨code, hcode, -⟩ := h.mail m hm
          have hle := (id_bounds h hcode).2
          omega
      rw [hbegan.1]
      rw [List.map_append]
      rw [List.append_assoc]
      apply List.perm_middle.nodup_iff.2
      exact List.nodup_cons.2 ⟨hfresh, h.sent⟩

theorem active_step (h : Ledger exec past w) (hstep : Step exec w x w') (id : Nat)
    : w'.shell.activeRun? = some id ↔ Awaited (past ++ [(w, x)]) id := by
  rw [awaited_concat]
  rw [← h.active]
  cases hstep with
  | completes hmem hexec => simp [Occurrence.started, Occurrence.Keeps]
  | shell hs hreport => exact Shell.activeRun_of_runStep (Shell.runStep_of_step hs) id

theorem last_step (h : Ledger exec past w) (hstep : Step exec w x w')
    : ∀ id, w'.shell.activeRun? = some id → 0 < id ∧ id = w'.shell.runCount := by
  cases hstep with
  | completes hmem hexec => exact h.last
  | shell hs hreport => exact Shell.last_of_runStep (Shell.runStep_of_step hs) h.last

theorem running_step (h : Ledger exec past w) (hstep : Step exec w x w')
    : w'.shell.running = true → w'.shell.output = .running → w'.shell.activeRun?.isSome := by
  cases hstep with
  | completes hmem hexec => exact h.running
  | shell hs hreport => exact Shell.awaited_of_runStep (Shell.runStep_of_step hs) h.running

theorem program_step (h : Ledger exec past w) (hstep : Step exec w x w') (o : String)
    (houtput : w'.shell.output = .program o)
    : ∃ code, Began (past ++ [(w, x)]) w'.shell.runCount code ∧ exec code (.ok o) := by
  -- what is shown is either kept, or comes from the report of the run that was started last
  have hkept (hran : ∃ code, Began past w.shell.runCount code ∧ exec code (.ok o))
      : ∃ code, Began (past ++ [(w, x)]) w.shell.runCount code ∧ exec code (.ok o) := by
    obtain ⟨code, hbegan, hexec⟩ := hran
    exact ⟨code, hbegan.concat _, hexec⟩
  cases hstep with
  | completes hmem hexec => exact hkept (h.program o houtput)
  | shell hs hreport =>
    obtain ⟨hcount, hfrom⟩ := Shell.program_of_runStep (Shell.runStep_of_step hs) houtput
    dsimp only
    rw [hcount]
    apply hkept
    cases hfrom with
    | inl hbefore => exact h.program o hbefore
    | inr hfinished =>
      obtain ⟨id, heq, hactive⟩ := hfinished
      obtain ⟨hpos, hid⟩ := h.last id hactive
      rw [← hid]
      exact h.mail _ (hreport id _ heq hpos hid)

theorem empty_step (h : Ledger exec past w) (hstep : Step exec w x w')
    (hempty : w'.shell.output = .empty)
    : ∀ y ∈ past ++ [(w, x)], y.1.shell.output = .empty ∧ ¬ y.2.Writes y.1.shell := by
  have hnow : w.shell.output = .empty ∧ ¬ x.Writes w.shell := by
    cases hstep with
    | completes hmem hexec => exact ⟨hempty, id⟩
    | shell hs hreport =>
      refine ⟨Shell.output_of_runStep (Shell.runStep_of_step hs) hempty, ?_⟩
      intro hwrites
      exact Shell.output_of_writes hs hwrites hempty
  intro y hy
  cases List.mem_append.1 hy with
  | inl hbefore => exact h.empty hnow.1 y hbefore
  | inr hlast =>
    rw [List.mem_singleton.1 hlast]
    exact hnow

theorem active_of_displays {id : Nat} (h : Displays (w, x) id)
    : w.shell.activeRun? = some id ∧ ¬ x.Keeps id := by
  obtain ⟨result, heq, hne⟩ := h
  refine ⟨Shell.finishRun_ne_iff.1 hne, ?_⟩
  intro hkeeps
  have hx : x = _ := heq
  rw [hx] at hkeeps
  exact hkeeps.2.2 result rfl

theorem displayed_step (h : Ledger exec past w) (hstep : Step exec w x w')
    : ∀ y ∈ past ++ [(w, x)], ∀ id, Displays y id →
        id ≤ w'.shell.runCount ∧ w'.shell.activeRun? ≠ some id := by
  intro y hy id hdisplays
  -- after its report was taken, a run is no longer awaited, and it is never started again
  have hnow : id ≤ w.shell.runCount ∧ (w.shell.activeRun? = some id → ¬ x.Keeps id) := by
    cases List.mem_append.1 hy with
    | inl hbefore =>
      obtain ⟨hle, hne⟩ := h.displayed y hbefore id hdisplays
      exact ⟨hle, fun hactive => absurd hactive hne⟩
    | inr hlast =>
      rw [List.mem_singleton.1 hlast] at hdisplays
      obtain ⟨hactive, hkeeps⟩ := active_of_displays hdisplays
      exact ⟨Nat.le_of_eq (h.last id hactive).2, fun _ => hkeeps⟩
  cases hstep with
  | completes hmem hexec => exact ⟨hnow.1, fun hactive => hnow.2 hactive trivial⟩
  | shell hs hreport =>
    have hrun := Shell.runStep_of_step hs
    dsimp only
    rw [Ne]
    rw [Shell.activeRun_of_runStep hrun]
    cases Shell.runCount_of_runStep hrun with
    | inl hbegan =>
      rw [hbegan.1]
      rw [hbegan.2]
      refine ⟨Nat.le_succ_of_le hnow.1, ?_⟩
      intro hor
      cases hor with
      | inl hstarted =>
        obtain ⟨code, hcode⟩ := hstarted
        cases List.mem_singleton.1 hcode
        omega
      | inr hkept => exact hnow.2 hkept.1 hkept.2
    | inr hkept =>
      rw [hkept.1]
      rw [hkept.2]
      refine ⟨hnow.1, ?_⟩
      intro hor
      cases hor with
      | inl hstarted =>
        obtain ⟨code, hcode⟩ := hstarted
        contradiction
      | inr hkept => exact hnow.2 hkept.1 hkept.2

theorem once_concat (h : Ledger exec past w)
    : (past ++ [(w, x)]).Pairwise fun y z => ∀ m n, Displays y m → Displays z n → m < n := by
  rw [List.pairwise_append]
  refine ⟨h.once, List.pairwise_singleton _ _, ?_⟩
  intro y hy z hz m n hm hn
  rw [List.mem_singleton.1 hz] at hn
  obtain ⟨hactive, -⟩ := active_of_displays hn
  obtain ⟨hle, hne⟩ := h.displayed y hy m hm
  obtain ⟨-, hlast⟩ := h.last n hactive
  have hdifferent : m ≠ n := by
    rintro rfl
    exact hne hactive
  omega

theorem ledger_step (h : Ledger exec past w) (hstep : Step exec w x w')
    : Ledger exec (past ++ [(w, x)]) w' where
  ids := ids_step h hstep
  tasks := tasks_step h hstep
  mail := mail_step h hstep
  sent := sent_step h hstep
  active := active_step h hstep
  last := last_step h hstep
  running := running_step h hstep
  program := program_step h hstep
  empty := empty_step h hstep
  displayed := displayed_step h hstep
  once := once_concat h

def start (r : Registry) (theme : String) : Bench :=
  { shell := Shell.start r theme }

variable {r : Registry} {theme : String}

theorem ledger_start : Ledger exec [] (start r theme) where
  ids := rfl
  tasks := by
    intro t ht
    contradiction
  mail := by
    intro m hm
    contradiction
  sent := List.nodup_nil
  active := by
    intro id
    constructor
    · intro h
      contradiction
    · rintro ⟨before, y, after, heq, -⟩
      simp at heq
  last := by
    intro id h
    contradiction
  running := by
    intro hrunning houtput
    contradiction
  program := by
    intro o h
    contradiction
  empty := by
    intro hempty y hy
    contradiction
  displayed := by
    intro y hy
    contradiction
  once := .nil

theorem ledger_of_history (h : History (Step exec) (start r theme) past w) : Ledger exec past w := by
  induction h with
  | nil => exact ledger_start
  | snoc hpast hstep ih => exact ledger_step ih hstep

structure Orderly (exec : List Char → RunResult → Prop) (past : List (Bench × Occurrence)) (w : Bench) :
    Prop where
  increasing : ((started past).map Prod.fst).Pairwise (· < ·)
  active : ∀ id, w.shell.activeRun? = some id → ((started past).map Prod.fst).getLast? = some id
  sent : (w.mail.map Prod.fst).Nodup
  taken : ∀ id result,
    (w.shell.handleEvent (.runFinished id result)).1 ≠ w.shell ↔ Awaited past id
  shown : ∀ id result w', Step exec w (.shell (.event (.runFinished id result))) w' →
    w'.shell ≠ w.shell →
      w'.shell.output = result.shown ∧ ∃ code, Began past id code ∧ exec code result
  once : past.Pairwise fun y z => ∀ m n, Displays y m → Displays z n → m < n
  program : ∀ o, w.shell.output = .program o →
    ∃ id code, ((started past).map Prod.fst).getLast? = some id ∧ Began past id code
      ∧ exec code (.ok o)
  running : w.shell.running = true → w.shell.output = .running → w.shell.activeRun?.isSome
  ping : ∀ url result, (w.shell.applyPing url result).1.output ≠ w.shell.output →
    ∀ y ∈ past, y.1.shell.output = .empty ∧ ¬ y.2.Writes y.1.shell

theorem getLast?_started (h : Ledger exec past w) (hpos : 0 < w.shell.runCount)
    : ((started past).map Prod.fst).getLast? = some w.shell.runCount := by
  rw [h.ids]
  rw [List.getLast?_range']
  rw [if_neg (by omega)]
  simp

theorem orderly_of_history (h : History (Step exec) (start r theme) past w) : Orderly exec past w := by
  have hledger := ledger_of_history h
  constructor
  case increasing =>
    rw [hledger.ids]
    exact List.pairwise_lt_range'
  case active =>
    intro id hactive
    obtain ⟨hpos, hid⟩ := hledger.last id hactive
    rw [hid] at hpos ⊢
    exact getLast?_started hledger hpos
  case sent => exact (List.nodup_append.1 hledger.sent).2.1
  case taken =>
    intro id result
    rw [← hledger.active]
    exact Shell.finishRun_ne_iff
  case shown =>
    intro id result w' hstep hne
    cases hstep with
    | shell hs hreport =>
      cases hs with
      | event =>
        have hactive := Shell.finishRun_ne_iff.1 hne
        obtain ⟨hpos, hid⟩ := hledger.last id hactive
        refine ⟨Shell.output_of_finishRun hactive, ?_⟩
        exact hledger.mail _ (hreport id result rfl hpos hid)
  case once => exact hledger.once
  case program =>
    intro o houtput
    obtain ⟨code, hbegan, hexec⟩ := hledger.program o houtput
    have hlast := getLast?_started hledger (id_bounds hledger hbegan).1
    exact ⟨_, code, hlast, hbegan, hexec⟩
  case running => exact hledger.running
  case ping =>
    intro url result hne
    apply hledger.empty
    apply Decidable.byContradiction
    intro houtput
    apply hne
    unfold Shell.applyPing
    dsimp only
    rw [if_neg houtput]

def Echo (code : List Char) (result : RunResult) : Prop :=
  result = .ok (String.ofList code)

theorem orderly_of_history_echo
    : ∃ past w, History (Step Echo) (start Shell.builtIn "vs-dark") past w
        ∧ w.mail.map Prod.fst = [1, 2]
        ∧ w.shell.output = .program Shell.welcomeText
        ∧ Orderly Echo past w := by
  have hbegan : History (Step Echo) (start Shell.builtIn "vs-dark") _ _ :=
    .snoc .nil
      (.shell (i := .action .run _) (.action (.signal (.signal (.signal (.done _))))) (by simp))
  have hcompleted := hbegan.snoc (.completes (List.mem_singleton.2 rfl) rfl)
  -- the second run is started when the report of the first is on its way
  have hagain := hcompleted.snoc
    (.shell (i := .action .run _)
      (.action (.signal (.signal (.signal (.signal (.signal (.done _))))))) (by simp))
  have hstale := hagain.snoc
    (.shell (.event _ (.runFinished 1 (.ok "stale"))) (by
      intro id result heq hpos hid
      cases heq
      contradiction))
  have hdone := hstale.snoc (.completes (List.mem_singleton.2 rfl) rfl)
  have hshown := hdone.snoc
    (.shell (.event _ (.runFinished 2 (.ok Shell.welcomeText))) (by
      intro id result heq hpos hid
      cases heq
      exact List.mem_concat_self))
  exact ⟨_, _, hshown, rfl, rfl, orderly_of_history hshown⟩

end Bench
end Workbench
