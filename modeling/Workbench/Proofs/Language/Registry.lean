import Mathlib.Data.List.Induction
import Workbench.Language.Builtin

/-!
What a registry answers after any calls. Each language that was registered stands for its last registration with the
calls after it, and the languages stand in the order of these registrations. So a service is the one that was set last
since then, and an extension selects the language whose last registration came first.
-/

namespace Workbench

inductive Service where
  | tokens (p : TokensProvider)
  | completion (p : CompletionProvider)
  | hover (p : HoverProvider)

namespace Service

def addTo (s : Service) (l : Language) : Language :=
  match s with
  | tokens p => { l with tokens := some p }
  | completion p => { l with completion := some p }
  | hover p => { l with hover := some p }

def tokens? : Service → Option TokensProvider
  | tokens p => some p
  | _ => none

def completion? : Service → Option CompletionProvider
  | completion p => some p
  | _ => none

def hover? : Service → Option HoverProvider
  | hover p => some p
  | _ => none

end Service

inductive RegistryCall where
  | register (id : String) (extensions : List String)
  | provide (id : String) (s : Service)

namespace RegistryCall

def registers (id : String) : RegistryCall → Bool
  | register other _ => other = id
  | provide _ _ => false

def serviceFor? (id : String) : RegistryCall → Option Service
  | register _ _ => none
  | provide other s => if other = id then some s else none

@[simp]
theorem registers_register (id other : String) (extensions : List String)
    : (register other extensions).registers id = decide (other = id) := by
  rfl

@[simp]
theorem registers_provide (id other : String) (s : Service) : (provide other s).registers id = false := by
  rfl

@[simp]
theorem serviceFor?_register (id other : String) (extensions : List String)
    : (register other extensions).serviceFor? id = none := by
  rfl

@[simp]
theorem serviceFor?_provide (id other : String) (s : Service)
    : (provide other s).serviceFor? id = if other = id then some s else none := by
  rfl

end RegistryCall

namespace Registry

def provide (r : Registry) (id : String) : Service → Except RegistryError Registry
  | .tokens p => r.setTokens id p
  | .completion p => r.setCompletion id p
  | .hover p => r.setHover id p

def call (r : Registry) : RegistryCall → Except RegistryError Unit × Registry
  | .register id extensions => (.ok (), r.register id extensions)
  | .provide id s =>
    match r.provide id s with
    | .ok r' => (.ok (), r')
    | .error e => (.error e, r)

def ofCalls (calls : List RegistryCall) : Registry :=
  calls.foldl (fun r c => (r.call c).2) {}

theorem ofCalls_concat (calls : List RegistryCall) (c : RegistryCall)
    : ofCalls (calls ++ [c]) = ((ofCalls calls).call c).2 := by
  simp [ofCalls]

theorem provide_eq_update (r : Registry) (id : String) (s : Service)
    : r.provide id s = r.update id s.addTo := by
  cases s <;> rfl

theorem call_provide (r : Registry) (id : String) (s : Service)
    : r.call (.provide id s)
        = if (r.find? id).isSome
          then (.ok (), ⟨r.languages.map fun l => if l.id = id then s.addTo l else l⟩)
          else (.error (.unknownLanguage id), r) := by
  simp only [call, provide_eq_update, update]
  by_cases h : (r.find? id).isSome = true
  · simp only [h, if_true]
  · simp only [h]
    rfl

theorem map_of_ne {languages : List Language} {id : String} {f : Language → Language} (h : ∀ l ∈ languages, l.id ≠ id)
    : languages.map (fun l => if l.id = id then f l else l) = languages := by
  calc
    languages.map (fun l => if l.id = id then f l else l) = languages.map (fun l => l) := by
      apply List.map_congr_left
      intro l hl
      exact if_neg (h l hl)
    _ = languages := List.map_id' _

theorem languages_provide (r : Registry) (id : String) (s : Service)
    : (r.call (.provide id s)).2.languages = r.languages.map fun l => if l.id = id then s.addTo l else l := by
  rw [call_provide]
  split
  next => rfl
  next hnone =>
    have hne : ∀ l ∈ r.languages, l.id ≠ id := by
      simpa [find?] using hnone
    exact (map_of_ne hne).symm

theorem update_concat {others : List Language} {l : Language} (h : ∀ other ∈ others, other.id ≠ l.id)
    (f : Language → Language)
    : update ⟨others ++ [l]⟩ l.id f = .ok ⟨others ++ [f l]⟩ := by
  have hfound : (find? ⟨others ++ [l]⟩ l.id).isSome = true := by
    simp [find?]
  unfold update
  rw [if_pos hfound]
  rw [List.map_append]
  rw [map_of_ne h]
  rw [List.map_singleton, if_pos rfl]

end Registry

namespace Language.Builtin

theorem lower_extensions : extensions.map Unicode.lower = extensions := by
  decide +kernel

theorem register_eq (r : Registry) : register r = .ok ⟨r.languages.filter (·.id ≠ id) ++ [language]⟩ := by
  have hothers : ∀ other ∈ r.languages.filter (·.id ≠ id), other.id ≠ id := by
    simp
  unfold register Registry.register
  rw [lower_extensions]
  generalize r.languages.filter (·.id ≠ id) = others at hothers ⊢
  have htokens : Registry.setTokens ⟨others ++ [⟨id, extensions, none, none, none⟩]⟩ id Lexer.builtin.tokenize
      = .ok ⟨others ++ [⟨id, extensions, some Lexer.builtin.tokenize, none, none⟩]⟩ :=
    Registry.update_concat hothers _
  have hcompletion : Registry.setCompletion
        ⟨others ++ [⟨id, extensions, some Lexer.builtin.tokenize, none, none⟩]⟩ id completion
      = .ok ⟨others ++ [⟨id, extensions, some Lexer.builtin.tokenize, some completion, none⟩]⟩ :=
    Registry.update_concat hothers _
  have hhover : Registry.setHover
        ⟨others ++ [⟨id, extensions, some Lexer.builtin.tokenize, some completion, none⟩]⟩ id hover
      = .ok ⟨others ++ [language]⟩ :=
    Registry.update_concat hothers _
  simp only [htokens, hcompletion, hhover, bind, Except.bind]

end Language.Builtin

structure Registration where
  id : String
  extensions : List String
  since : List RegistryCall

namespace Registration

def IsLast (x : Registration) (calls : List RegistryCall) : Prop :=
  (∃ earlier, calls = earlier ++ .register x.id x.extensions :: x.since)
    ∧ ∀ extensions, .register x.id extensions ∉ x.since

def services (x : Registration) : List Service :=
  x.since.filterMap (·.serviceFor? x.id)

def tokens? (x : Registration) : Option TokensProvider :=
  (x.services.filterMap Service.tokens?).getLast?

def completion? (x : Registration) : Option CompletionProvider :=
  (x.services.filterMap Service.completion?).getLast?

def hover? (x : Registration) : Option HoverProvider :=
  (x.services.filterMap Service.hover?).getLast?

def Claims (x : Registration) (ext : String) : Prop :=
  Unicode.lower ext ∈ x.extensions.map Unicode.lower

instance (x : Registration) (ext : String) : Decidable (x.Claims ext) :=
  inferInstanceAs (Decidable (_ ∈ _))

def language (x : Registration) : Language where
  id := x.id
  extensions := x.extensions.map Unicode.lower
  tokens := x.tokens?
  completion := x.completion?
  hover := x.hover?

def followedBy (x : Registration) (c : RegistryCall) : Registration :=
  { x with since := x.since ++ [c] }

def ofCalls : List RegistryCall → List Registration
  | [] => []
  | .register id extensions :: calls =>
    if calls.any (·.registers id) then ofCalls calls else ⟨id, extensions, calls⟩ :: ofCalls calls
  | .provide _ _ :: calls => ofCalls calls

theorem language_followedBy_register (x : Registration) (id : String) (extensions : List String)
    : (x.followedBy (.register id extensions)).language = x.language := by
  simp [language, followedBy, tokens?, completion?, hover?, services]

theorem language_followedBy_provide (x : Registration) (id : String) (s : Service)
    : (x.followedBy (.provide id s)).language = if x.id = id then s.addTo x.language else x.language := by
  have hservices : (x.followedBy (.provide id s)).services
      = if x.id = id then x.services ++ [s] else x.services := by
    simp only [services, followedBy, List.filterMap_append]
    split
    next h => simp [h]
    next h => simp [Ne.symm h]
  unfold language tokens? completion? hover?
  rw [hservices]
  split
  next =>
    cases s <;> simp [Service.addTo, Service.tokens?, Service.completion?, Service.hover?, followedBy]
  next => rfl

theorem ofCalls_concat_provide (calls : List RegistryCall) (id : String) (s : Service)
    : ofCalls (calls ++ [.provide id s]) = (ofCalls calls).map (·.followedBy (.provide id s)) := by
  induction calls with
  | nil => rfl
  | cons c calls ih =>
    cases c with
    | register other extensions =>
      simp only [List.cons_append, ofCalls, ih]
      have hany : (calls ++ [RegistryCall.provide id s]).any (·.registers other)
          = calls.any (·.registers other) := by
        simp
      rw [hany]
      split
      · rfl
      · rfl
    | provide other t => exact ih

theorem ofCalls_concat_register (calls : List RegistryCall) (id : String) (extensions : List String)
    : ofCalls (calls ++ [.register id extensions])
        = ((ofCalls calls).filter (·.id ≠ id)).map (·.followedBy (.register id extensions))
          ++ [⟨id, extensions, []⟩] := by
  induction calls with
  | nil => rfl
  | cons c calls ih =>
    cases c with
    | register other others =>
      simp only [List.cons_append, ofCalls, ih]
      have hany : (calls ++ [RegistryCall.register id extensions]).any (·.registers other)
          = (calls.any (·.registers other) || id = other) := by
        simp
      rw [hany]
      cases calls.any (·.registers other) with
      | true => simp
      | false =>
        by_cases heq : id = other
        · simp [heq]
        · simp [heq, Ne.symm heq, followedBy]
    | provide other t => exact ih

theorem isLast_nil {x : Registration} : ¬ x.IsLast [] := by
  rintro ⟨⟨earlier, h⟩, -⟩
  simp at h

theorem isLast_cons {x : Registration} {c : RegistryCall} {calls : List RegistryCall}
    : x.IsLast (c :: calls)
        ↔ (c = .register x.id x.extensions ∧ calls = x.since ∧ ∀ extensions, .register x.id extensions ∉ calls)
          ∨ x.IsLast calls := by
  constructor
  · rintro ⟨⟨earlier, h⟩, hlast⟩
    cases earlier with
    | nil =>
      obtain ⟨hc, hcalls⟩ := List.cons.inj h
      rw [← hcalls] at hlast
      exact .inl ⟨hc, hcalls, hlast⟩
    | cons d earlier =>
      obtain ⟨-, hcalls⟩ := List.cons.inj h
      exact .inr ⟨⟨earlier, hcalls⟩, hlast⟩
  · rintro (⟨rfl, rfl, hlast⟩ | ⟨⟨earlier, rfl⟩, hlast⟩)
    · exact ⟨⟨[], rfl⟩, hlast⟩
    · exact ⟨⟨c :: earlier, rfl⟩, hlast⟩

theorem any_registers {calls : List RegistryCall} {id : String}
    : calls.any (·.registers id) = true ↔ ∃ extensions, .register id extensions ∈ calls := by
  rw [List.any_eq_true]
  constructor
  · rintro ⟨c, hc, hreg⟩
    cases c with
    | register other extensions =>
      rw [RegistryCall.registers_register, decide_eq_true_eq] at hreg
      rw [hreg] at hc
      exact ⟨extensions, hc⟩
    | provide other s => contradiction
  · rintro ⟨extensions, hmem⟩
    exact ⟨_, hmem, by simp⟩

theorem exists_isLast {calls : List RegistryCall} {id : String} {extensions : List String}
    (h : .register id extensions ∈ calls)
    : ∃ x : Registration, x.IsLast calls ∧ x.id = id := by
  induction calls generalizing extensions with
  | nil => contradiction
  | cons c calls ih =>
    by_cases hlater : ∃ extensions, .register id extensions ∈ calls
    · obtain ⟨others, hmem⟩ := hlater
      obtain ⟨x, hx, hid⟩ := ih hmem
      exact ⟨x, isLast_cons.2 (.inr hx), hid⟩
    · rw [not_exists] at hlater
      cases h with
      | head => exact ⟨⟨id, extensions, calls⟩, isLast_cons.2 (.inl ⟨rfl, rfl, hlater⟩), rfl⟩
      | tail _ hmem => exact absurd hmem (hlater extensions)

theorem mem_ofCalls {x : Registration} {calls : List RegistryCall} : x ∈ ofCalls calls ↔ x.IsLast calls := by
  induction calls with
  | nil => simp [ofCalls, isLast_nil]
  | cons c calls ih =>
    rw [isLast_cons]
    cases c with
    | provide id s =>
      rw [ofCalls]
      rw [ih]
      simp
    | register id extensions =>
      rw [ofCalls]
      split
      next hany =>
        obtain ⟨others, hmem⟩ := any_registers.1 hany
        rw [ih]
        constructor
        · exact .inr
        · rintro (⟨hc, hcalls, hnot⟩ | hx)
          · cases hc
            exact absurd hmem (hnot others)
          · exact hx
      next hany =>
        rw [any_registers, not_exists] at hany
        rw [List.mem_cons]
        rw [ih]
        constructor
        · rintro (rfl | hx)
          · exact .inl ⟨rfl, rfl, hany⟩
          · exact .inr hx
        · rintro (⟨hc, rfl, -⟩ | hx)
          · cases hc
            exact .inl rfl
          · exact .inr hx

theorem length_since_lt {x : Registration} {calls : List RegistryCall} (h : x.IsLast calls)
    : x.since.length < calls.length := by
  obtain ⟨⟨earlier, rfl⟩, -⟩ := h
  simp
  omega

theorem pairwise_ofCalls (calls : List RegistryCall)
    : (ofCalls calls).Pairwise fun x y => x.id ≠ y.id ∧ y.since.length < x.since.length := by
  induction calls with
  | nil => exact .nil
  | cons c calls ih =>
    cases c with
    | provide id s => exact ih
    | register id extensions =>
      rw [ofCalls]
      split
      next => exact ih
      next hany =>
        rw [any_registers, not_exists] at hany
        apply List.Pairwise.cons
        · intro y hy
          rw [mem_ofCalls] at hy
          constructor
          · rintro rfl
            obtain ⟨⟨earlier, rfl⟩, -⟩ := hy
            apply hany y.extensions
            simp
          · exact length_since_lt hy
        · exact ih

theorem IsLast.mem {x : Registration} {calls : List RegistryCall} (h : x.IsLast calls)
    : .register x.id x.extensions ∈ calls := by
  obtain ⟨⟨earlier, rfl⟩, -⟩ := h
  simp

theorem IsLast.eq_of_id_eq {x y : Registration} {calls : List RegistryCall} (hx : x.IsLast calls)
    (hy : y.IsLast calls) (h : x.id = y.id) : x = y := by
  induction calls with
  | nil => exact absurd hx isLast_nil
  | cons c calls ih =>
    rcases isLast_cons.1 hx with ⟨hcx, hsx, hnx⟩ | htx
    · rcases isLast_cons.1 hy with ⟨hcy, hsy, hny⟩ | hty
      · rw [hcx] at hcy
        cases x
        cases y
        cases hcy
        cases hsx
        cases hsy
        rfl
      · rw [h] at hnx
        exact absurd hty.mem (hnx _)
    · rcases isLast_cons.1 hy with ⟨hcy, hsy, hny⟩ | hty
      · rw [← h] at hny
        exact absurd htx.mem (hny _)
      · exact ih htx hty

theorem IsLast.eq_of_length_eq {x y : Registration} {calls : List RegistryCall} (hx : x.IsLast calls)
    (hy : y.IsLast calls) (h : x.since.length = y.since.length) : x = y := by
  obtain ⟨⟨before, hbefore⟩, -⟩ := hx
  obtain ⟨⟨earlier, hearlier⟩, -⟩ := hy
  rw [hbefore] at hearlier
  obtain ⟨-, hcons⟩ := List.append_inj' hearlier (by simp [h])
  obtain ⟨hc, hsince⟩ := List.cons.inj hcons
  cases x
  cases y
  cases hc
  cases hsince
  rfl

end Registration

namespace Registry

theorem languages_ofCalls (calls : List RegistryCall)
    : (ofCalls calls).languages = (Registration.ofCalls calls).map (·.language) := by
  induction calls using List.reverseRecOn with
  | nil => rfl
  | append_singleton calls c ih =>
    rw [ofCalls_concat]
    cases c with
    | register id extensions =>
      rw [Registration.ofCalls_concat_register]
      simp only [call, register, ih]
      rw [List.map_append, List.map_map]
      rw [List.filter_map]
      congr 1
      apply List.map_congr_left
      intro x hx
      symm
      exact x.language_followedBy_register id extensions
    | provide id s =>
      rw [languages_provide]
      rw [ih]
      rw [Registration.ofCalls_concat_provide]
      rw [List.map_map, List.map_map]
      apply List.map_congr_left
      intro x hx
      symm
      exact x.language_followedBy_provide id s

variable {calls : List RegistryCall} {x : Registration}

theorem nodup_ids (calls : List RegistryCall) : ((ofCalls calls).languages.map (·.id)).Nodup := by
  rw [languages_ofCalls]
  rw [List.map_map]
  apply List.pairwise_map.2
  exact (Registration.pairwise_ofCalls calls).imp And.left

theorem find?_of_isLast (h : x.IsLast calls) : (ofCalls calls).find? x.id = some x.language := by
  cases hfound : (ofCalls calls).find? x.id with
  | none =>
    unfold find? at hfound
    rw [languages_ofCalls] at hfound
    rw [List.find?_eq_none] at hfound
    have hmem := List.mem_map_of_mem (f := Registration.language) (Registration.mem_ofCalls.2 h)
    exact absurd (decide_eq_true rfl) (hfound _ hmem)
  | some l =>
    unfold find? at hfound
    have hid := List.find?_some hfound
    have hmem := List.mem_of_find?_eq_some hfound
    rw [languages_ofCalls] at hmem
    obtain ⟨y, hy, rfl⟩ := List.mem_map.1 hmem
    rw [(Registration.mem_ofCalls.1 hy).eq_of_id_eq h (of_decide_eq_true hid)]

theorem find?_eq_none_iff {id : String}
    : (ofCalls calls).find? id = none ↔ ∀ extensions, .register id extensions ∉ calls := by
  constructor
  · intro h extensions hmem
    obtain ⟨x, hx, rfl⟩ := Registration.exists_isLast hmem
    rw [find?_of_isLast hx] at h
    contradiction
  · intro h
    unfold find?
    rw [languages_ofCalls]
    rw [List.find?_eq_none]
    intro l hl hid
    obtain ⟨x, hx, rfl⟩ := List.mem_map.1 hl
    have hmem := (Registration.mem_ofCalls.1 hx).mem
    rw [← of_decide_eq_true hid] at h
    exact h _ hmem

theorem languageForPath?_eq (p : Path)
    : (ofCalls calls).languageForPath? p
        = p.extension?.bind fun ext => ((Registration.ofCalls calls).find? (·.Claims ext)).map (·.id) := by
  unfold languageForPath?
  congr 1
  funext ext
  have hclaims : (fun l : Language => l.extensions.contains (Unicode.lower ext)) ∘ Registration.language
      = fun x => decide (x.Claims ext) := by
    funext x
    simp [Registration.language, Registration.Claims]
  rw [languages_ofCalls]
  rw [List.find?_map]
  rw [hclaims]
  rw [Option.map_map]
  rfl

theorem find?_claims {ext : String} (h : (Registration.ofCalls calls).find? (·.Claims ext) = some x)
    : x.IsLast calls ∧ x.Claims ext
        ∧ ∀ y : Registration, y.IsLast calls → y.Claims ext → y.since.length ≤ x.since.length := by
  have hpairwise := Registration.pairwise_ofCalls calls
  have hx := Registration.mem_ofCalls.1 (List.mem_of_find?_eq_some h)
  obtain ⟨hclaims, earlier, later, hlist, hnone⟩ := List.find?_eq_some_iff_append.1 h
  refine ⟨hx, of_decide_eq_true hclaims, ?_⟩
  intro y hy hyclaims
  rw [← Registration.mem_ofCalls] at hy
  rw [hlist] at hy hpairwise
  rcases List.mem_append.1 hy with hmem | hmem
  · simpa [hyclaims] using hnone y hmem
  · cases hmem with
    | head => exact Nat.le_refl _
    | tail _ hlater =>
      have hafter := List.rel_of_pairwise_cons (List.pairwise_append.1 hpairwise).2.1 hlater
      exact Nat.le_of_lt hafter.2

theorem languageForPath?_eq_some_iff {p : Path} {id : String}
    : (ofCalls calls).languageForPath? p = some id
        ↔ ∃ ext, p.extension? = some ext ∧ ∃ x : Registration, x.IsLast calls ∧ x.id = id ∧ x.Claims ext
          ∧ ∀ y : Registration, y.IsLast calls → y.Claims ext → y.since.length ≤ x.since.length := by
  rw [languageForPath?_eq]
  rw [Option.bind_eq_some_iff]
  constructor
  · rintro ⟨ext, hext, hfound⟩
    obtain ⟨x, hx, rfl⟩ := Option.map_eq_some_iff.1 hfound
    obtain ⟨hlast, hclaims, hfirst⟩ := find?_claims hx
    exact ⟨ext, hext, x, hlast, rfl, hclaims, hfirst⟩
  · rintro ⟨ext, hext, x, hlast, rfl, hclaims, hfirst⟩
    refine ⟨ext, hext, ?_⟩
    cases hfound : (Registration.ofCalls calls).find? (·.Claims ext) with
    | none =>
      rw [List.find?_eq_none] at hfound
      have hnot := hfound x (Registration.mem_ofCalls.2 hlast)
      exact absurd (decide_eq_true hclaims) hnot
    | some y =>
      obtain ⟨hy, hyclaims, hyfirst⟩ := find?_claims hfound
      have hlength := Nat.le_antisymm (hfirst y hy hyclaims) (hyfirst x hlast hclaims)
      rw [hy.eq_of_length_eq hlast hlength]
      rfl

structure Reflects (r : Registry) (calls : List RegistryCall) : Prop where
  nodup : (r.languages.map (·.id)).Nodup
  registered : ∀ id, (∃ l ∈ r.languages, l.id = id) ↔ ∃ extensions, .register id extensions ∈ calls
  accepted : ∀ id s, (∃ extensions, .register id extensions ∈ calls) → (r.call (.provide id s)).1 = .ok ()
  refused : ∀ id s, (∀ extensions, .register id extensions ∉ calls) →
    r.call (.provide id s) = (.error (.unknownLanguage id), r)
  unknown : ∀ id, (∀ extensions, .register id extensions ∉ calls) →
    (∀ line, r.tokenize? id line = none) ∧ (∀ m p, r.completions id m p = []) ∧ ∀ m p, r.hover? id m p = none
  known : ∀ x : Registration, x.IsLast calls →
    (∀ line, r.tokenize? x.id line = x.tokens?.map (· line))
    ∧ (∀ m p, r.completions x.id m p = (x.completion?.map (· m p)).getD [])
    ∧ ∀ m p, r.hover? x.id m p = x.hover?.bind (· m p)
  selected : ∀ p id, r.languageForPath? p = some id
    ↔ ∃ ext, p.extension? = some ext ∧ ∃ x : Registration, x.IsLast calls ∧ x.id = id ∧ x.Claims ext
      ∧ ∀ y : Registration, y.IsLast calls → y.Claims ext → y.since.length ≤ x.since.length
  claimed : ∀ p, (r.languageForPath? p).isSome
    ↔ ∃ ext, p.extension? = some ext ∧ ∃ x : Registration, x.IsLast calls ∧ x.Claims ext

theorem reflects_ofCalls (calls : List RegistryCall) : (ofCalls calls).Reflects calls where
  nodup := nodup_ids calls
  registered := by
    intro id
    rw [languages_ofCalls]
    constructor
    · rintro ⟨l, hl, rfl⟩
      obtain ⟨x, hx, rfl⟩ := List.mem_map.1 hl
      exact ⟨_, (Registration.mem_ofCalls.1 hx).mem⟩
    · rintro ⟨extensions, hmem⟩
      obtain ⟨x, hx, rfl⟩ := Registration.exists_isLast hmem
      exact ⟨_, List.mem_map_of_mem (Registration.mem_ofCalls.2 hx), rfl⟩
  accepted := by
    rintro id s ⟨extensions, hmem⟩
    obtain ⟨x, hx, rfl⟩ := Registration.exists_isLast hmem
    rw [call_provide]
    rw [find?_of_isLast hx]
    rfl
  refused := by
    intro id s h
    rw [call_provide]
    rw [find?_eq_none_iff.2 h]
    rfl
  unknown := by
    intro id h
    have hnone := find?_eq_none_iff.2 h
    simp [tokenize?, completions, hover?, hnone]
  known := by
    intro x hx
    have hfound := find?_of_isLast hx
    simp [tokenize?, completions, hover?, hfound, Registration.language]
  selected := by
    intro p id
    apply languageForPath?_eq_some_iff
  claimed := by
    intro p
    rw [languageForPath?_eq]
    simp only [Option.isSome_bind, Option.isSome_map, Option.any_eq_true, List.find?_isSome, decide_eq_true_eq,
      Registration.mem_ofCalls]

end Registry

end Workbench
