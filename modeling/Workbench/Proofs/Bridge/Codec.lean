import Workbench.Proofs.Json.Variant

/-!
What is said on a wire is understood. Each message reads back from the value that it is written as,
and from every value that differs from it only in the order of members and in members that neither
the message nor what is nested in it has a name for.
-/

namespace Workbench

open Json

variable {known : List String} {w : Json}

@[simp]
theorem Json.asString?_str (s : String) : (str s).asString? = some s := rfl

theorem Json.asUInt16?_toNat (n : UInt16) : (int n.toNat).asUInt16? = some n := by
  have := n.toNat_lt
  unfold asUInt16?
  dsimp only
  rw [if_pos (by omega)]
  simp

@[simp]
theorem TagStyle.read?_str (style : TagStyle) (names : List String) (s : String)
    : style.read? names (.str s) = names.findIdx? (· = s) := rfl

namespace HostRequest

def names : List String :=
  ["channel", "args", "defaultName", "path", "content"]

theorem toJson_channel (r : HostRequest)
    : (r.toJson.untag? "channel").map (·.1) = some (.str r.channel) := by
  cases r <;> rfl

theorem ofJson?_variant {r : HostRequest} (hk : names ⊆ known) (h : r.toJson.Variant known w)
    : ofJson? w = some r := by
  have hchannel : "channel" ∈ known := hk (by decide)
  have hargs : "args" ∈ known := hk (by decide)
  cases r with
  | openFile =>
    obtain ⟨ms, rfl, hms⟩ := h.exists_members
    obtain ⟨channel, hc, hrel⟩ := hms.member?_of_mem (by simp) hchannel List.mem_cons_self
    cases hrel
    have ha := hms.member?_of_none hargs rfl
    simp [ofJson?, hc, ha, ofParts?]
  | saveFileAs defaultName =>
    obtain ⟨ms, channel, args, rfl, hc, hchannel, ha, hargs⟩ := h.pair_eq (by decide) hchannel hargs
    cases hchannel
    have hfields := Variant.members?_eq [("defaultName", defaultName)] hargs
      (by simp) (by grind [names])
    dsimp only [List.map] at hfields
    simp [ofJson?, hc, ha, ofParts?, hfields]
  | writeFile path content =>
    obtain ⟨ms, channel, args, rfl, hc, hchannel, ha, hargs⟩ := h.pair_eq (by decide) hchannel hargs
    cases hchannel
    have hfields := Variant.members?_eq [("path", path), ("content", content)] hargs
      (by simp) (by grind [names])
    dsimp only [List.map] at hfields
    simp [ofJson?, hc, ha, ofParts?, hfields, Seq.seq]

end HostRequest

namespace Envelope

def names : List String :=
  "version" :: "request" :: HostRequest.names

theorem ofJson?_variant {e : Envelope} (hk : names ⊆ known) (h : e.toJson.Variant known w)
    : ofJson? w = some e := by
  obtain ⟨ms, version, request, rfl, hv, hversion, hr, hrequest⟩ :=
    h.pair_eq (by decide) (hk (by decide)) (hk (by decide))
  cases hversion
  have hof : HostRequest.ofJson? request = some e.request := by
    apply HostRequest.ofJson?_variant _ hrequest
    grind [names]
  simp [ofJson?, fields?, Json.members?, hv, hr, asUInt16?_toNat, hof, Seq.seq]

end Envelope

namespace FileOpenResult

def names : List String :=
  ["outcome", "path", "content", "error"]

theorem nodup_members (r : FileOpenResult) : ("kind" :: r.members.map (·.1)).Nodup := by
  cases r <;> simp [members]

theorem ofJson?_variant {r : FileOpenResult} (style : TagStyle) (hk : names ⊆ known)
    (h : r.toJson.Variant known w)
    : ofJson? style w = some r := by
  cases r with
  | canceled =>
    obtain ⟨rest, htag, _, hempty⟩ := Variant.tagged_eq [] h (by simp) (by grind [names])
    simp [ofJson?, htag, hempty, List.findIdx?_cons]
  | opened path content =>
    obtain ⟨rest, htag, hfields, _⟩ :=
      Variant.tagged_eq [("path", path), ("content", content)] h (by simp) (by grind [names])
    dsimp only [List.map] at hfields
    simp [ofJson?, htag, hfields, List.findIdx?_cons, Seq.seq]
  | failed error =>
    obtain ⟨rest, htag, hfields, _⟩ :=
      Variant.tagged_eq [("error", error)] h (by simp) (by grind [names])
    dsimp only [List.map] at hfields
    simp [ofJson?, htag, hfields, List.findIdx?_cons]

end FileOpenResult

namespace SaveTarget

def names : List String :=
  ["outcome", "filePath", "error"]

theorem nodup_members (t : SaveTarget) : ("kind" :: t.members.map (·.1)).Nodup := by
  cases t <;> simp [members]

theorem ofJson?_variant {t : SaveTarget} (style : TagStyle) (hk : names ⊆ known)
    (h : t.toJson.Variant known w)
    : ofJson? style w = some t := by
  cases t with
  | canceled =>
    obtain ⟨rest, htag, _, hempty⟩ := Variant.tagged_eq [] h (by simp) (by grind [names])
    simp [ofJson?, htag, hempty, List.findIdx?_cons]
  | chosen filePath =>
    obtain ⟨rest, htag, hfields, _⟩ :=
      Variant.tagged_eq [("filePath", filePath)] h (by simp) (by grind [names])
    dsimp only [List.map] at hfields
    simp [ofJson?, htag, hfields, List.findIdx?_cons]
  | failed error =>
    obtain ⟨rest, htag, hfields, _⟩ :=
      Variant.tagged_eq [("error", error)] h (by simp) (by grind [names])
    dsimp only [List.map] at hfields
    simp [ofJson?, htag, hfields, List.findIdx?_cons]

end SaveTarget

namespace WriteOutcome

def names : List String :=
  ["outcome", "path", "error"]

theorem nodup_members (o : WriteOutcome) : ("kind" :: o.members.map (·.1)).Nodup := by
  cases o <;> simp [members]

theorem ofJson?_variant {o : WriteOutcome} (style : TagStyle) (hk : names ⊆ known)
    (h : o.toJson.Variant known w)
    : ofJson? style w = some o := by
  cases o with
  | written path =>
    obtain ⟨rest, htag, hfields, _⟩ :=
      Variant.tagged_eq [("path", path)] h (by simp) (by grind [names])
    dsimp only [List.map] at hfields
    simp [ofJson?, htag, hfields, List.findIdx?_cons]
  | failed error =>
    obtain ⟨rest, htag, hfields, _⟩ :=
      Variant.tagged_eq [("error", error)] h (by simp) (by grind [names])
    dsimp only [List.map] at hfields
    simp [ofJson?, htag, hfields, List.findIdx?_cons]

end WriteOutcome

namespace HostResponse

def names : List String :=
  "kind" :: FileOpenResult.names ++ SaveTarget.names ++ WriteOutcome.names

theorem toJson_kind (r : HostResponse)
    : (r.toJson.untag? "kind").map (·.1) = some (.str r.kind) := by
  cases r <;> rfl

theorem ofJson?_variant {r : HostResponse} (hk : names ⊆ known) (h : r.toJson.Variant known w)
    : ofJson? w = some r := by
  have hkind : "kind" ∈ known := hk (by decide)
  cases r with
  | openResult r =>
    obtain ⟨rest, htag, hrest⟩ := Variant.untag?_eq h r.nodup_members hkind
    have hresult := FileOpenResult.ofJson?_variant .namedOrNumbered (by grind [names]) hrest
    simp [ofJson?, htag, hresult, List.findIdx?_cons]
  | saveTarget t =>
    obtain ⟨rest, htag, hrest⟩ := Variant.untag?_eq h t.nodup_members hkind
    have htarget := SaveTarget.ofJson?_variant .namedOrNumbered (by grind [names]) hrest
    simp [ofJson?, htag, htarget, List.findIdx?_cons]
  | writeOutcome o =>
    obtain ⟨rest, htag, hrest⟩ := Variant.untag?_eq h o.nodup_members hkind
    have houtcome := WriteOutcome.ofJson?_variant .namedOrNumbered (by grind [names]) hrest
    simp [ofJson?, htag, houtcome, List.findIdx?_cons]
  | rejected error =>
    obtain ⟨rest, htag, hfields, _⟩ :=
      Variant.tagged_eq [("error", error)] h (by simp) (by grind [names, FileOpenResult.names])
    dsimp only [List.map] at hfields
    simp [ofJson?, htag, hfields, List.findIdx?_cons]

end HostResponse

namespace RunRequest

def names : List String :=
  ["code"]

theorem ofJson?_variant {r : RunRequest} (h : r.toJson.Variant names w) : ofJson? w = some r := by
  have hfields := Variant.fields?_eq [("code", r.code)] h (by simp) (by simp [names])
  dsimp only [List.map] at hfields
  simp [ofJson?, hfields]

end RunRequest

namespace RunResponse

def names : List String :=
  ["output"]

theorem ofJson?_variant {r : RunResponse} (h : r.toJson.Variant names w) : ofJson? w = some r := by
  have hfields := Variant.fields?_eq [("output", r.output)] h (by simp) (by simp [names])
  dsimp only [List.map] at hfields
  simp [ofJson?, hfields]

end RunResponse

/-- Values of a type read back from what they are written as, whatever the order of members there, and
whatever members have been added with names that are not among these. -/
structure Faithful {α : Type} (names : List String) (toJson : α → Json)
    (ofJson? : Json → Option α) : Prop where
  reads_back : ∀ v, ofJson? (toJson v) = some v
  reads_variants : ∀ v w, (toJson v).Variant names w → ofJson? w = some v

theorem Faithful.of_variants {α : Type} {names : List String} {toJson : α → Json}
    {ofJson? : Json → Option α}
    (h : ∀ v w, (toJson v).Variant names w → ofJson? w = some v)
    : Faithful names toJson ofJson? where
  reads_back v := h v _ (.same _)
  reads_variants := h

theorem messages_faithful
    : Faithful Envelope.names Envelope.toJson Envelope.ofJson?
      ∧ Faithful HostRequest.names HostRequest.toJson HostRequest.ofJson?
      ∧ Faithful HostResponse.names HostResponse.toJson HostResponse.ofJson?
      ∧ Faithful FileOpenResult.names FileOpenResult.toJson (FileOpenResult.ofJson? .named)
      ∧ Faithful SaveTarget.names SaveTarget.toJson (SaveTarget.ofJson? .named)
      ∧ Faithful WriteOutcome.names WriteOutcome.toJson (WriteOutcome.ofJson? .named)
      ∧ Faithful RunRequest.names RunRequest.toJson RunRequest.ofJson?
      ∧ Faithful RunResponse.names RunResponse.toJson RunResponse.ofJson?
      ∧ (∀ r : HostRequest, (r.toJson.untag? "channel").map (·.1) = some (.str r.channel))
      ∧ (∀ r : HostResponse, (r.toJson.untag? "kind").map (·.1) = some (.str r.kind)) := by
  refine ⟨?_, ?_, ?_, ?_, ?_, ?_, ?_, ?_, HostRequest.toJson_channel, HostResponse.toJson_kind⟩
  all_goals
    apply Faithful.of_variants
    intro v w h
  · apply Envelope.ofJson?_variant (List.Subset.refl _) h
  · apply HostRequest.ofJson?_variant (List.Subset.refl _) h
  · apply HostResponse.ofJson?_variant (List.Subset.refl _) h
  · apply FileOpenResult.ofJson?_variant .named (List.Subset.refl _) h
  · apply SaveTarget.ofJson?_variant .named (List.Subset.refl _) h
  · apply WriteOutcome.ofJson?_variant .named (List.Subset.refl _) h
  · apply RunRequest.ofJson?_variant h
  · apply RunResponse.ofJson?_variant h

end Workbench
