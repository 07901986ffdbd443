import Workbench.Bridge.Codec

/-!
JSON values that say the same to a reader who knows some names. Objects may have their members in
another order, and further members with names that the reader does not know. Such a reader finds the
same members in both, so it finds the same fields of a record and the same tag.
-/

namespace Workbench

namespace Json

/-- The members `ms'` are the members `ms`, with values that `R` relates to theirs, and members with
names that are not known, in any order. -/
inductive Extends (known : List String) (R : Json → Json → Prop)
    : List (String × Json) → List (String × Json) → Prop
  | nil : Extends known R [] []
  | keep {ms ms' : List (String × Json)} {v w : Json} (name : String)
    : R v w → Extends known R ms ms' → Extends known R ((name, v) :: ms) ((name, w) :: ms')
  | add {ms ms' : List (String × Json)} {name : String} (v : Json)
    : name ∉ known → Extends known R ms ms' → Extends known R ms ((name, v) :: ms')
  | perm {ms ms' ms'' : List (String × Json)}
    : Extends known R ms ms' → ms'.Perm ms'' → Extends known R ms ms''

/-- The second value is the first up to the order of the members of objects and members with names
that are not known. -/
inductive Variant (known : List String) : Json → Json → Prop
  | same (v : Json) : Variant known v v
  | members {ms ms' : List (String × Json)}
    : Extends known (Variant known) ms ms' → Variant known (.obj ms) (.obj ms')

variable {known : List String} {name tag : String} {R : Json → Json → Prop}
variable {v w : Json} {ms ms' : List (String × Json)}

theorem mem_of_member? (h : member? name ms = some v) : (name, v) ∈ ms := by
  fun_induction member? name ms with
  | case1 => contradiction
  | case2 =>
    cases h
    apply List.mem_cons_self
  | case3 n u ms hn ih =>
    apply List.mem_cons_of_mem
    apply ih
    exact h

theorem exists_member?_of_mem (h : (name, v) ∈ ms) : ∃ w, member? name ms = some w := by
  fun_induction member? name ms with
  | case1 => contradiction
  | case2 u ms => exact ⟨u, rfl⟩
  | case3 n u ms hn ih =>
    apply ih
    cases h with
    | head => contradiction
    | tail _ hmem => exact hmem

theorem eq_of_mem_of_nodup (hd : (ms.map (·.1)).Nodup) (hv : (name, v) ∈ ms) (hw : (name, w) ∈ ms)
    : v = w := by
  induction ms with
  | nil => contradiction
  | cons m ms ih =>
    rw [List.map_cons, List.nodup_cons] at hd
    have hother : ∀ u, (name, u) ∈ ms → m.1 ≠ name := by
      intro u hu heq
      apply hd.1
      rw [heq]
      exact List.mem_map_of_mem hu
    cases hv with
    | head =>
      cases hw with
      | head => rfl
      | tail _ hw => exact absurd rfl (hother w hw)
    | tail _ hv =>
      cases hw with
      | head => exact absurd rfl (hother v hv)
      | tail _ hw => exact ih hd.2 hv hw

namespace Extends

theorem mem (h : Extends known R ms ms') (hv : (name, v) ∈ ms) : ∃ w, (name, w) ∈ ms' := by
  induction h with
  | nil => contradiction
  | keep n _ _ ih =>
    cases hv with
    | head => exact ⟨_, List.mem_cons_self⟩
    | tail _ hv =>
      obtain ⟨w, hw⟩ := ih hv
      exact ⟨w, List.mem_cons_of_mem _ hw⟩
  | add u _ _ ih =>
    obtain ⟨w, hw⟩ := ih hv
    exact ⟨w, List.mem_cons_of_mem _ hw⟩
  | perm _ hp ih =>
    obtain ⟨w, hw⟩ := ih hv
    exact ⟨w, hp.mem_iff.1 hw⟩

theorem mem_of_known (h : Extends known R ms ms') (hn : name ∈ known) (hw : (name, w) ∈ ms')
    : ∃ v, (name, v) ∈ ms ∧ R v w := by
  induction h with
  | nil => contradiction
  | keep n hr _ ih =>
    cases hw with
    | head => exact ⟨_, List.mem_cons_self, hr⟩
    | tail _ hw =>
      obtain ⟨v, hv, hr⟩ := ih hw
      exact ⟨v, List.mem_cons_of_mem _ hv, hr⟩
  | add u hu _ ih =>
    cases hw with
    | head => contradiction
    | tail _ hw => exact ih hw
  | perm _ hp ih =>
    apply ih
    exact hp.mem_iff.2 hw

theorem filter (h : Extends known R ms ms') (tag : String)
    : Extends known R (ms.filter (·.1 ≠ tag)) (ms'.filter (·.1 ≠ tag)) := by
  induction h with
  | nil => exact .nil
  | keep n hr _ ih =>
    rw [List.filter_cons, List.filter_cons]
    split
    · exact ih.keep n hr
    · exact ih
  | add u hu _ ih =>
    rw [List.filter_cons]
    split
    · exact ih.add u hu
    · exact ih
  | perm _ hp ih => exact ih.perm (hp.filter _)

theorem member?_of_mem (h : Extends known R ms ms') (hd : (ms.map (·.1)).Nodup) (hn : name ∈ known)
    (hv : (name, v) ∈ ms)
    : ∃ w, member? name ms' = some w ∧ R v w := by
  obtain ⟨u, hu⟩ := h.mem hv
  obtain ⟨w, hw⟩ := exists_member?_of_mem hu
  obtain ⟨v', hv', hr⟩ := h.mem_of_known hn (mem_of_member? hw)
  rw [eq_of_mem_of_nodup hd hv' hv] at hr
  exact ⟨w, hw, hr⟩

theorem member?_of_none (h : Extends known R ms ms') (hn : name ∈ known) (hv : member? name ms = none)
    : member? name ms' = none := by
  rw [Option.eq_none_iff_forall_ne_some]
  intro w hw
  obtain ⟨v, hmem, _⟩ := h.mem_of_known hn (mem_of_member? hw)
  obtain ⟨u, hu⟩ := exists_member?_of_mem hmem
  rw [hv] at hu
  contradiction

theorem refl (hr : ∀ v, R v v) (ms : List (String × Json)) : Extends known R ms ms := by
  induction ms with
  | nil => exact .nil
  | cons m ms ih => exact .keep m.1 (hr m.2) ih

end Extends

def stringMembers (fields : List (String × String)) : List (String × Json) :=
  fields.map fun f => (f.1, str f.2)

theorem names_stringMembers (fields : List (String × String))
    : (stringMembers fields).map (·.1) = fields.map (·.1) := by
  simp [stringMembers]

theorem members?_of_forall {fields : List (String × String)}
    (h : ∀ f ∈ fields, member? f.1 ms = some (str f.2))
    : (obj ms).members? (fields.map (·.1)) = some (fields.map (str ·.2)) := by
  unfold members?
  dsimp only
  induction fields with
  | nil => rfl
  | cons f fields ih =>
    rw [List.forall_mem_cons] at h
    rw [List.map_cons]
    rw [List.mapM_cons]
    rw [h.1]
    rw [ih h.2]
    rfl

namespace Variant

theorem exists_members (h : (obj ms).Variant known w)
    : ∃ ms', w = obj ms' ∧ Extends known (Variant known) ms ms' := by
  cases h with
  | same =>
    refine ⟨ms, rfl, ?_⟩
    apply Extends.refl
    apply Variant.same
  | members h => exact ⟨_, rfl, h⟩

theorem pair_eq {n m : String} {u : Json} (h : (obj [(n, v), (m, u)]).Variant known w) (hne : n ≠ m)
    (hn : n ∈ known) (hm : m ∈ known)
    : ∃ ms v' u', w = obj ms ∧ member? n ms = some v' ∧ v.Variant known v'
      ∧ member? m ms = some u' ∧ u.Variant known u' := by
  obtain ⟨ms, rfl, hms⟩ := h.exists_members
  have hd : ([(n, v), (m, u)].map (·.1)).Nodup := by simp [hne]
  obtain ⟨v', hv, hvv⟩ := hms.member?_of_mem hd hn List.mem_cons_self
  obtain ⟨u', hu, huu⟩ := hms.member?_of_mem hd hm (List.mem_cons_of_mem _ List.mem_cons_self)
  exact ⟨ms, v', u', rfl, hv, hvv, hu, huu⟩

theorem members?_eq (fields : List (String × String))
    (h : (obj (stringMembers fields)).Variant known w) (hd : (fields.map (·.1)).Nodup) (hn : fields.map (·.1) ⊆ known)
    : w.members? (fields.map (·.1)) = some (fields.map (str ·.2)) := by
  obtain ⟨ms, rfl, hms⟩ := h.exists_members
  apply members?_of_forall
  intro f hf
  have hmem : (f.1, str f.2) ∈ stringMembers fields := List.mem_map_of_mem hf
  rw [← names_stringMembers] at hd
  obtain ⟨v, hv, hrel⟩ := hms.member?_of_mem hd (hn (List.mem_map_of_mem hf)) hmem
  cases hrel
  exact hv

theorem fields?_eq (fields : List (String × String))
    (h : (obj (stringMembers fields)).Variant known w) (hd : (fields.map (·.1)).Nodup) (hn : fields.map (·.1) ⊆ known)
    : w.fields? (fields.map (·.1)) = some (fields.map (str ·.2)) := by
  rw [← h.members?_eq fields hd hn]
  obtain ⟨ms, rfl, _⟩ := h.exists_members
  rfl

theorem untag?_eq {s : String} (h : (obj ((tag, str s) :: ms)).Variant known w)
    (hd : (tag :: ms.map (·.1)).Nodup) (ht : tag ∈ known)
    : ∃ rest, w.untag? tag = some (str s, rest) ∧ (obj ms).Variant known rest := by
  obtain ⟨ms', rfl, hms⟩ := h.exists_members
  obtain ⟨t, htag, hrel⟩ := hms.member?_of_mem hd ht List.mem_cons_self
  cases hrel
  refine ⟨obj (ms'.filter (·.1 ≠ tag)), ?_, ?_⟩
  · simp [untag?, htag]
  · have hrest := hms.filter tag
    rw [List.nodup_cons] at hd
    rw [List.filter_cons_of_neg (by simp)] at hrest
    rw [List.filter_eq_self.2] at hrest
    · exact .members hrest
    · intro m hm
      rw [decide_eq_true_eq]
      intro heq
      apply hd.1
      rw [← heq]
      exact List.mem_map_of_mem hm

theorem tagged_eq {s : String} (fields : List (String × String))
    (h : (obj ((tag, str s) :: stringMembers fields)).Variant known w)
    (hd : (tag :: fields.map (·.1)).Nodup) (hn : tag :: fields.map (·.1) ⊆ known)
    : ∃ rest, w.untag? tag = some (str s, rest)
      ∧ rest.fields? (fields.map (·.1)) = some (fields.map (str ·.2)) ∧ rest.isEmptyRecord := by
  rw [List.cons_subset] at hn
  obtain ⟨rest, htag, hrest⟩ := h.untag?_eq (by rwa [names_stringMembers]) hn.1
  refine ⟨rest, htag, ?_, ?_⟩
  · exact hrest.fields?_eq fields (List.nodup_cons.1 hd).2 hn.2
  · obtain ⟨ms, rfl, _⟩ := hrest.exists_members
    rfl

end Variant

end Json

end Workbench
